import MeterTester.UartAnswer

/-! # Results are fresh

While an issue function runs, the statics still belong to the command before: bytes go on being
stored under the old count, a late answer may still set the flag.  What makes its result worthless
is the order of the last statements: `uart_flag` is set to `UART_WAIT` when letter, length and
count are those of the new command.  From there on success means that the receive thread has read
a valid answer since the function was entered (`Serving`), under every interleaving of the three
threads (`ok_result_fresh`). -/

namespace MeterTester

open Interleave HeaderScan Uart

/-- The bytes `rx` contain the header of an answer to `c`, in this order, and behind it the rest
of the answer. -/
def Fresh (c : Command) (rx : List UInt8) : Prop :=
  ∃ pre tail post, rx = pre ++ tail ++ post ∧
    ['@'.toUInt8, 'A'.toUInt8, c.letter].Sublist pre ∧
      ValidAnswer c (['@'.toUInt8, 'A'.toUInt8, c.letter] ++ tail)

namespace Uart

/-- Every successful result was fresh when it was returned. -/
def AllFresh (s : Uart) : Prop :=
  ∀ r ∈ s.returned, r.flag = UART_READ_OK → ∃ c, r.latest = some c ∧ Fresh c r.rx

/-! ### Points of the main thread -/

/-- The function of `c` has been entered. -/
structure Entered (c : Command) (s : Uart) : Prop where
  counted : s.Counted
  latest : s.latest = some c
  fresh : s.AllFresh

/-- Its letter is in force. -/
structure Lettered (c : Command) (s : Uart) : Prop extends Entered c s where
  uart_commend : s.uart_commend = c.letter

/-- Letter and length are in force. -/
structure Sized (c : Command) (s : Uart) : Prop extends Lettered c s where
  data_end : s.data_end = c.answer_len

/-- Bytes are stored for `c` only; all of them were read since its function was entered. -/
structure Counting (c : Command) (s : Uart) : Prop extends Entered c s, Receiving c s where
  suffix : s.window.map Prod.fst <:+ s.rx

/-- Moreover the length is that of its answer. -/
structure Ready (c : Command) (s : Uart) : Prop extends Counting c s where
  data_end : s.data_end = c.answer_len

/-- The command has been issued. -/
structure Serving (c : Command) (s : Uart) : Prop extends Entered c s, Listening c s where
  suffix : s.window.map Prod.fst <:+ s.rx

/-- Before the first command. -/
structure Idle (s : Uart) : Prop where
  counted : s.Counted
  fresh : s.AllFresh
  data_end : s.data_end = 0
  no_result : s.uart_flag ≠ UART_READ_OK

/-- Between two calls of the main thread. -/
def Rested (s : Uart) : Prop := s.Idle ∨ ∃ c, s.Serving c

theorem timeout_ne_ok : UART_ERROR_TIMEOUT ≠ UART_READ_OK := by decide

theorem wait_ne_ok : UART_WAIT ≠ UART_READ_OK := by decide

/-! ### What the other threads leave alone -/

section interference
variable {c : Command} {s s' : Uart}

/-- The fields that only the main thread writes. -/
theorem interference_frame (hs : s.Counted) (h : Interference s s') :
    s'.data_end = s.data_end ∧ s'.uart_commend = s.uart_commend ∧ s'.latest = s.latest ∧
      s'.returned = s.returned := by
  rcases h with ⟨ch, hp⟩ | _
  · rcases data_parsing_cases hs hp with ⟨rfl, -⟩ | ⟨hlt, -, -, rfl⟩
    · exact ⟨rfl, rfl, rfl, rfl⟩
    · split_ifs
      · rw [my_data_parsing_data_end, my_data_parsing_uart_commend, my_data_parsing_latest,
          my_data_parsing_returned]
        exact ⟨rfl, rfl, rfl, rfl⟩
      · exact ⟨rfl, rfl, rfl, rfl⟩
  · obtain ⟨_, _, h, -⟩ := s.data_timeout_parsing_frame
    rw [h]
    exact ⟨rfl, rfl, rfl, rfl⟩

theorem data_parsing_rx (hs : s.Counted) {ch : UInt8} (h : s.data_parsing ch = some s') :
    s'.rx = s.rx ++ [ch] := by
  rcases data_parsing_cases hs h with ⟨rfl, -⟩ | ⟨hlt, -, -, rfl⟩
  · rfl
  · split_ifs
    · rw [my_data_parsing_rx]
      rfl
    · rfl

/-- What has been stored stays the end of what has been read. -/
theorem suffix_interference (hs : s.Counted) (hsuf : s.window.map Prod.fst <:+ s.rx)
    (h : Interference s s') : s'.window.map Prod.fst <:+ s'.rx := by
  rcases h with ⟨ch, hp⟩ | _
  · rw [data_parsing_window hs hp, data_parsing_rx hs hp, see]
    rcases hs.data_end with ⟨h0, hw⟩ | h7
    · simp [h0, hw]
    · dsimp only
      rw [if_pos (by omega), List.map_append]
      obtain ⟨r, hr⟩ := hsuf
      exact ⟨r, by rw [← hr, List.append_assoc]; rfl⟩
  · obtain ⟨_, _, h, -⟩ := s.data_timeout_parsing_frame
    rw [h]
    exact hsuf

theorem Entered.interference (h : s.Entered c) (he : Interference s s') : s'.Entered c := by
  obtain ⟨-, -, hl, hr⟩ := interference_frame h.counted he
  exact ⟨holds_counted.stable _ _ h.counted he, by rw [hl, h.latest],
    by rw [AllFresh, hr]; exact h.fresh⟩

theorem Lettered.interference (h : s.Lettered c) (he : Interference s s') : s'.Lettered c :=
  ⟨h.toEntered.interference he, by rw [(interference_frame h.counted he).2.1, h.uart_commend]⟩

theorem Sized.interference (h : s.Sized c) (he : Interference s s') : s'.Sized c :=
  ⟨h.toLettered.interference he, by rw [(interference_frame h.counted he).1, h.data_end]⟩

theorem Receiving.interference (h : s.Receiving c) (he : Interference s s') :
    s'.Receiving c := by
  rcases he with ⟨ch, hp⟩ | _
  · exact h.data_parsing hp
  · have hc := h.counted.data_timeout_parsing
    obtain ⟨_, _, heq, -⟩ := s.data_timeout_parsing_frame
    rw [heq] at hc ⊢
    exact ⟨hc, h.uart_commend, h.letters, h.exact, h.unspoiled⟩

theorem Counting.interference (h : s.Counting c) (he : Interference s s') : s'.Counting c :=
  { h.toEntered.interference he, h.toReceiving.interference he with
    suffix := suffix_interference h.toEntered.counted h.suffix he }

theorem Ready.interference (h : s.Ready c) (he : Interference s s') : s'.Ready c :=
  ⟨h.toCounting.interference he, by rw [(interference_frame h.toEntered.counted he).1, h.data_end]⟩

theorem Listening.interference (h : s.Listening c) (he : Interference s s') :
    s'.Listening c := by
  have hr := h.toReceiving.interference he
  rcases he with ⟨ch, hp⟩ | _
  · exact h.data_parsing hp
  · obtain ⟨flag, _, heq, hflag⟩ := s.data_timeout_parsing_frame
    rw [heq] at hr ⊢
    refine ⟨hr, h.data_end, fun hok => ?_⟩
    rcases hflag with rfl | rfl
    · exact h.ok hok
    · exact absurd hok timeout_ne_ok

theorem Serving.interference (h : s.Serving c) (he : Interference s s') : s'.Serving c :=
  { h.toEntered.interference he, h.toListening.interference he with
    suffix := suffix_interference h.toEntered.counted h.suffix he }

theorem Idle.interference (h : s.Idle) (he : Interference s s') : s'.Idle := by
  obtain ⟨hend, -, -, hr⟩ := interference_frame h.counted he
  refine ⟨holds_counted.stable _ _ h.counted he, by rw [AllFresh, hr]; exact h.fresh,
    by rw [hend, h.data_end], ?_⟩
  rcases he with ⟨ch, hp⟩ | _
  · rw [data_parsing_idle h.data_end] at hp
    cases hp
    exact h.no_result
  · obtain ⟨flag, _, heq, hflag⟩ := s.data_timeout_parsing_frame
    rw [heq]
    rcases hflag with rfl | rfl
    · exact h.no_result
    · exact timeout_ne_ok

end interference

section holds
variable (c : Command)

theorem holds_entered : Holds Interference AllFresh (Entered c) :=
  ⟨fun _ _ h he => h.interference he, fun _ h => h.fresh⟩

theorem holds_lettered : Holds Interference AllFresh (Lettered c) :=
  ⟨fun _ _ h he => h.interference he, fun _ h => h.fresh⟩

theorem holds_sized : Holds Interference AllFresh (Sized c) :=
  ⟨fun _ _ h he => h.interference he, fun _ h => h.fresh⟩

theorem holds_counting : Holds Interference AllFresh (Counting c) :=
  ⟨fun _ _ h he => h.interference he, fun _ h => h.fresh⟩

theorem holds_ready : Holds Interference AllFresh (Ready c) :=
  ⟨fun _ _ h he => h.interference he, fun _ h => h.fresh⟩

theorem holds_serving : Holds Interference AllFresh (Serving c) :=
  ⟨fun _ _ h he => h.interference he, fun _ h => h.fresh⟩

theorem holds_rested : Holds Interference AllFresh Rested where
  stable := by
    rintro s s' (h | ⟨c, h⟩) he
    · exact .inl (h.interference he)
    · exact .inr ⟨c, h.interference he⟩
  keeps := by
    rintro s (h | ⟨c, h⟩)
    · exact h.fresh
    · exact h.fresh

end holds

/-! ### The statements of the issue functions -/

section statements
variable {c : Command} {s : Uart}

theorem Rested.enter (h : s.Rested) (c : Command) : (s.enter c).Entered c := by
  have hc : s.Counted := by
    rcases h with h | ⟨_, h⟩
    · exact h.counted
    · exact h.toEntered.counted
  exact ⟨⟨hc.len, hc.le, hc.data_end⟩, rfl, holds_rested.keeps s h⟩

theorem Entered.put (h : s.Entered c) (k : ℕ) (bs : List UInt8) : (s.put k bs).Entered c :=
  ⟨h.counted.put k bs, h.latest, h.fresh⟩

theorem Entered.set_letter (h : s.Entered c) : { s with uart_commend := c.letter }.Lettered c :=
  ⟨⟨⟨h.counted.len, h.counted.le, h.counted.data_end⟩, h.latest, h.fresh⟩, rfl⟩

theorem Lettered.put (h : s.Lettered c) (k : ℕ) (bs : List UInt8) : (s.put k bs).Lettered c :=
  ⟨h.toEntered.put k bs, h.uart_commend⟩

theorem Lettered.device_write (h : s.Lettered c) (k : ℕ) : (s.device_write k).Lettered c :=
  ⟨⟨⟨h.counted.len, h.counted.le, h.counted.data_end⟩, h.latest, h.fresh⟩, h.uart_commend⟩

theorem Lettered.set_data_end (h : s.Lettered c) :
    { s with data_end := c.answer_len }.Sized c :=
  ⟨⟨⟨h.counted.set_data_end (answer_len_ge c), h.latest, h.fresh⟩, h.uart_commend⟩, rfl⟩

/-- Nothing has been stored yet. -/
theorem Lettered.reset_len (h : s.Lettered c)
    (hI : s.data_end = c.answer_len ∨ c.letter ≠ 'I'.toUInt8) : s.reset_len.Counting c where
  counted := h.counted.reset_len
  latest := h.latest
  fresh := h.fresh
  uart_commend := h.uart_commend
  letters := fun b hb => by cases hb
  exact := fun _ i hi => by simp [stored, Uart.reset_len] at hi
  unspoiled := hI
  suffix := List.nil_suffix

theorem Counting.set_data_end (h : s.Counting c) :
    { s with data_end := c.answer_len }.Ready c where
  counted := h.toEntered.counted.set_data_end (answer_len_ge c)
  latest := h.latest
  fresh := h.fresh
  uart_commend := h.uart_commend
  letters := h.letters
  exact := h.exact
  unspoiled := .inl rfl
  suffix := h.suffix
  data_end := rfl

/-- Whatever the flag was, it is not success now. -/
theorem Ready.set_flag (h : s.Ready c) : { s with uart_flag := UART_WAIT }.Serving c where
  counted := ⟨h.toEntered.counted.len, h.toEntered.counted.le, h.toEntered.counted.data_end⟩
  latest := h.latest
  fresh := h.fresh
  uart_commend := h.uart_commend
  letters := h.letters
  exact := h.exact
  unspoiled := h.unspoiled
  data_end := h.data_end
  ok := fun hok => absurd hok wait_ne_ok
  suffix := h.suffix

/-- Statements of the main thread that leave the receiver alone. -/
theorem Serving.congr (h : s.Serving c) {s' : Uart} (hdata : s'.data = s.data)
    (hlen : s'.data_len = s.data_len) (hend : s'.data_end = s.data_end)
    (hflag : s'.uart_flag = s.uart_flag) (hletter : s'.uart_commend = s.uart_commend)
    (hwindow : s'.window = s.window) (hrx : s'.rx = s.rx) (hlatest : s'.latest = s.latest)
    (hfresh : s'.AllFresh) : s'.Serving c where
  counted := ⟨by rw [hlen, hwindow]; exact h.toEntered.counted.len,
    by rw [hlen]; exact h.toEntered.counted.le,
    by rw [hend, hwindow]; exact h.toEntered.counted.data_end⟩
  latest := by rw [hlatest, h.latest]
  fresh := hfresh
  uart_commend := by rw [hletter, h.uart_commend]
  letters := by rw [hwindow]; exact h.letters
  exact := fun hl i hi => by
    rw [hlen] at hl
    simp only [stored, hwindow, byte, hdata] at hi ⊢
    exact h.exact hl i hi
  unspoiled := by rw [hend]; exact h.unspoiled
  data_end := by rw [hend, h.data_end]
  ok := by
    rw [hflag, hlen, stored, hwindow]
    exact h.ok
  suffix := by rw [hwindow, hrx]; exact h.suffix

theorem Serving.set_timeot (h : s.Serving c) (n : ℕ) : { s with uart_timeot := n }.Serving c :=
  h.congr rfl rfl rfl rfl rfl rfl rfl rfl h.fresh

theorem Serving.device_write (h : s.Serving c) (k : ℕ) : (s.device_write k).Serving c :=
  h.congr rfl rfl rfl rfl rfl rfl rfl rfl h.fresh

/-- **Success means a fresh answer.** -/
theorem Serving.fresh_rx (h : s.Serving c) (hok : s.uart_flag = UART_READ_OK) : Fresh c s.rx := by
  obtain ⟨hge, hv⟩ := h.ok hok
  have hn := answer_len_ge c
  have hl := stored_length h.toEntered.counted
  obtain ⟨pre, post, hwindow, hkept, hpre⟩ := kept_split header s.window (by
    rw [← h.toEntered.counted.len, show header.length = 3 by rfl]
    omega)
  have hpre' : ((kept header pre).map Prod.fst).length = 3 := by rw [List.length_map, hpre]; rfl
  have hstored : s.stored = (kept header pre).map Prod.fst ++ post.map Prod.fst := by
    rw [stored, hkept, List.map_append]
  have hheader : (kept header pre).map Prod.fst = ['@'.toUInt8, 'A'.toUInt8, c.letter] := by
    rw [← h.stored_header (by omega), hstored, List.take_append_of_le_length hpre'.ge,
      List.take_of_length_le hpre'.le]
  obtain ⟨before, hrx⟩ := h.suffix
  refine ⟨before ++ pre.map Prod.fst, (post.map Prod.fst).take (c.answer_len - 3),
    (post.map Prod.fst).drop (c.answer_len - 3), ?_, ?_, ?_⟩
  · rw [List.append_assoc, List.take_append_drop, List.append_assoc, ← List.map_append, ← hwindow,
      hrx]
  · rw [← hheader]
    exact ((kept_sublist header pre).map Prod.fst).trans (List.sublist_append_right _ _)
  · rw [hstored, hheader, List.take_append, List.take_of_length_le (by simp; omega)] at hv
    exact hv

end statements

end Uart

/-! ### The main thread -/

theorem my_uart_SetData_serving (flag : Fin 3) (zf_list : List UInt8) (len : ℕ) :
    Triple Interference AllFresh Rested (my_uart_SetData flag zf_list len)
      (Serving (.SetData flag zf_list len)) := by
  have hI : (Command.SetData flag zf_list len).letter ≠ 'I'.toUInt8 := by
    simp only [Command.letter]
    clear zf_list len
    revert flag
    decide
  exact
    .block_cons (.act holds_rested (holds_entered _) fun _ h => h.enter _) <|
    .block_cons (.act (holds_entered _) (holds_entered _) fun _ h => h.put _ _) <|
    .block_cons (.act (holds_entered _) (holds_lettered _) fun _ h => h.set_letter) <|
    .block_cons (.act (holds_lettered _) (holds_lettered _) fun _ h => h.put _ _) <|
    .block_cons (.act (holds_lettered _) (holds_lettered _) fun _ h => h.put _ _) <|
    .block_cons (.act (holds_lettered _) (holds_lettered _) fun _ h => h.put _ _) <|
    .block_cons (.act (holds_lettered _) (holds_lettered _) fun _ h => h.device_write _) <|
    .block_cons (.act (holds_lettered _) (holds_counting _) fun _ h => h.reset_len (.inr hI)) <|
    .block_cons (.act (holds_counting _) (holds_ready _) fun _ h => h.set_data_end) <|
    .block_cons (.act (holds_ready _) (holds_serving _) fun _ h => h.set_flag) <|
    .block_last (holds_serving _)
      (.act (holds_serving _) (holds_serving _) fun _ h => h.set_timeot 40)

theorem my_uart_GetData_serving (flag : Fin 3) (choose : ℕ) :
    Triple Interference AllFresh Rested (my_uart_GetData flag choose)
      (Serving (.GetData flag choose)) :=
  .block_cons (.act holds_rested (holds_entered _) fun _ h => h.enter _) <|
  .block_cons (.act (holds_entered _) (holds_entered _) fun _ h => h.put _ _) <|
  .block_cons (.act (holds_entered _) (holds_lettered _) fun _ h => h.set_letter) <|
  .block_cons (.act (holds_lettered _) (holds_lettered _) fun _ h => h.put _ _) <|
  .block_cons (.act (holds_lettered _) (holds_lettered _) fun _ h => h.put _ _) <|
  .block_cons (.act (holds_lettered _) (holds_sized _) fun _ h => h.set_data_end) <|
  .block_cons (.act (holds_sized _) (holds_ready _) fun _ h =>
    ⟨h.toLettered.reset_len (.inl h.data_end), h.data_end⟩) <|
  .block_cons (.act (holds_ready _) (holds_serving _) fun _ h => h.set_flag) <|
  .block_cons (.act (holds_serving _) (holds_serving _) fun _ h => h.set_timeot 80) <|
  .block_last (holds_serving _)
    (.act (holds_serving _) (holds_serving _) fun _ h => h.device_write 8)

theorem ms_open_valve_serving :
    Triple Interference AllFresh Rested ms_open_valve (Serving .open_valve) :=
  .block_cons (.act holds_rested (holds_entered _) fun _ h => h.enter _) <|
  .block_cons (.act (holds_entered _) (holds_entered _) fun _ h => h.put _ _) <|
  .block_cons (.act (holds_entered _) (holds_lettered _) fun _ h => h.set_letter) <|
  .block_cons (.act (holds_lettered _) (holds_lettered _) fun _ h => h.put _ _) <|
  .block_cons (.act (holds_lettered _) (holds_lettered _) fun _ h => h.put _ _) <|
  .block_cons (.act (holds_lettered _) (holds_lettered _) fun _ h => h.put _ _) <|
  .block_cons (.act (holds_lettered _) (holds_lettered _) fun _ h => h.put _ _) <|
  .block_cons (.act (holds_lettered _) (holds_counting _) fun _ h =>
    h.reset_len (.inr (by decide))) <|
  .block_cons (.act (holds_counting _) (holds_ready _) fun _ h => h.set_data_end) <|
  .block_cons (.act (holds_ready _) (holds_serving _) fun _ h => h.set_flag) <|
  .block_cons (.act (holds_serving _) (holds_serving _) fun _ h => h.set_timeot 120) <|
  .block_last (holds_serving _)
    (.act (holds_serving _) (holds_serving _) fun _ h => h.device_write 33)

/-- A result is recorded; success is fresh. -/
theorem get_uart_flag_rested : Triple Interference AllFresh Rested get_uart_flag Rested := by
  refine .block_cons (.loop holds_rested holds_rested
    ((Triple.skip holds_rested).pre fun _ h => h.1) fun _ h _ => h) <|
    .block_last holds_rested (.act holds_rested holds_rested fun s h => ?_)
  rcases h with h | ⟨c, h⟩
  · refine .inl ⟨⟨h.counted.len, h.counted.le, h.counted.data_end⟩, ?_, h.data_end, h.no_result⟩
    intro r hr hok
    rcases List.mem_cons.mp hr with rfl | hr
    · exact absurd hok h.no_result
    · exact h.fresh r hr hok
  · refine .inr ⟨c, h.congr rfl rfl rfl rfl rfl rfl rfl rfl ?_⟩
    intro r hr hok
    rcases List.mem_cons.mp hr with rfl | hr
    · exact ⟨c, h.latest, h.fresh_rx hok⟩
    · exact h.fresh r hr hok

theorem use_rested (u : Use) : Triple Interference AllFresh Rested u.prog Rested := by
  cases u with
  | issue c =>
      cases c with
      | SetData flag zf_list len =>
          exact (my_uart_SetData_serving flag zf_list len).conseq (fun _ => id)
            fun _ h => .inr ⟨_, h⟩
      | GetData flag choose =>
          exact (my_uart_GetData_serving flag choose).conseq (fun _ => id) fun _ h => .inr ⟨_, h⟩
      | open_valve => exact ms_open_valve_serving.conseq (fun _ => id) fun _ h => .inr ⟨_, h⟩
  | get_uart_flag => exact get_uart_flag_rested

theorem main_thread_rested : ∀ uses : List Use,
    Triple Interference AllFresh Rested (main_thread uses) Rested
  | [] => .block_nil holds_rested
  | u :: uses => .block_cons (use_rested u) (main_thread_rested uses)

/-- **A positive result is always fresh**: whatever the main thread issues and polls, and however
the receive and the timeout thread interfere, `get_uart_flag` returns `UART_READ_OK` only when a
valid answer to the latest command has been read since its function was entered. -/
theorem ok_result_fresh (uses : List Use) (no_digit : UInt8 → UInt8) (F_addr : UInt8)
    {p : Prog Uart} {s : Uart}
    (h : Reach Interference (main_thread uses) (Uart.start no_digit F_addr) p s) :
    ∀ r ∈ s.returned, r.flag = UART_READ_OK → ∃ c, r.latest = some c ∧ Fresh c r.rx := by
  have hstart : (Uart.start no_digit F_addr).Rested := .inl
    ⟨counted_start no_digit F_addr, by simp [AllFresh, start], rfl, wait_ne_ok⟩
  exact (main_thread_rested uses _ hstart p s h).1

/-- A set command, its answer, one poll: success is returned. -/
theorem ok_result_fresh_set : ∃ p s,
    Reach Interference (main_thread [.issue (.SetData 0 (List.replicate 10 100) 6), .get_uart_flag])
        (Uart.start id 0) p s ∧
      s.returned.map Returned.flag = [UART_READ_OK] ∧
      ∀ r ∈ s.returned, r.flag = UART_READ_OK → ∃ c, r.latest = some c ∧ Fresh c r.rx := by
  let uses := [Use.issue (.SetData 0 (List.replicate 10 100) 6), .get_uart_flag]
  have hrun : ((((Command.SetData 0 (List.replicate 10 100) 6).issue.exec 0 (Uart.start id 0)).bind
      (feed ("@AA0B2*".toList.map Char.toUInt8))).bind
        ((main_thread [.get_uart_flag]).exec 1)).map (·.returned.map Returned.flag) =
          some [UART_READ_OK] := by decide +kernel
  obtain ⟨s, hs, hflag⟩ := Option.map_eq_some_iff.mp hrun
  obtain ⟨s₂, h₂, hpoll⟩ := Option.bind_eq_some_iff.mp hs
  obtain ⟨s₁, h₁, hfeed⟩ := Option.bind_eq_some_iff.mp h₂
  have hr : Reach Interference (main_thread uses) (Uart.start id 0) .skip s :=
    (feed_reach _ (exec_reach h₁) hfeed).seq_skip (exec_reach hpoll)
  exact ⟨.skip, s, hr, hflag, ok_result_fresh uses id 0 hr⟩

end MeterTester
