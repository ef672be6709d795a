import MeterTester.AxRecord
import MeterTester.Confirmed

/-! # The turns of the radio log

What the functions of the states `10`, `11` and `12` make of the world, each as a function of it.
In state `11` a key does one of five things (`ax_key`); the arrows and OK mean one thing while
records are shown (`time_number = 20`) and another while the date is edited.

Checks are passed unseen, as in the runs of `state_of`; here they guard the quotient of
`stat_sample` only. -/

namespace MeterTester

open Interleave Interleave.Prog World

/-! ### The keys of state `11` -/

/-- `if(t[i] > max) t[j] = max`. -/
def clamped (i j : Fin 7) (max : UInt8) (t : Vector UInt8 7) : Vector UInt8 7 :=
  if max < getElem t i (register_lt i) then t.set j max (register_lt j) else t

/-- The date that OK leaves in `my_time`, with the time not yet looked at. -/
def ok_date (t : Vector UInt8 7) : Vector UInt8 7 := clamped 4 4 31 (clamped 5 5 12 t)

/-- The date and the time that OK leaves in `my_time`. -/
def ok_time (t : Vector UInt8 7) : Vector UInt8 7 :=
  clamped 0 0 59 (clamped 1 1 59 (clamped 2 2 23 (ok_date t)))

namespace World

/-- The blinking of the date; while records are shown the clock is read. -/
def date_blinked (w : World) : World :=
  if w.thread_time % 10 = 0 then
    if w.time_number = 20 then { w with reverse := (w.reverse + 1) % 2 }.get_date
    else { w with reverse := (w.reverse + 1) % 2 }
  else w

/-- The cursor of the date comes to `t`. -/
def date_moved (w : World) (t : ℕ) : World :=
  { w with time_number := t, thread_time := 9, reverse := 1 }

/-- The slot `addr` is chosen and shown. -/
def browsed (w : World) (addr : ℕ) : World := { w with show_ax_addr := addr }.show_slot addr

def back_addr (w : World) : ℕ :=
  if w.show_ax_addr ≠ 0 then w.show_ax_addr - 1 else (stat_number w + 0xffff) % 0x10000

def forward_addr (w : World) : ℕ := (w.show_ax_addr + 1) % 0x10000 % stat_number w

def digit_pressed (w : World) : World :=
  if w.time_number < 12 then (set_time_digit w).date_moved ((w.time_number + 1) % 12) else w

def back_pressed (w : World) : World :=
  if w.time_number = 20 then
    if w.dfs.get_ax5045len_data ≠ 0 then w.browsed w.back_addr else w
  else w.date_moved (if w.time_number ≠ 0 then w.time_number - 1 else 11)

def forward_pressed (w : World) : World :=
  if w.time_number = 20 then
    if w.dfs.get_ax5045len_data ≠ 0 then w.browsed w.forward_addr else w
  else w.date_moved ((w.time_number + 1) % 12)

/-- `my_time` is `t` now, and `calls` have been made with it. -/
def clock_sent (w : World) (t : Vector UInt8 7) (calls : List Event) : World :=
  { w with my_time := t, log := calls ++ w.log }

/-- The calls of OK with the date and the time in `my_time`, newest first. -/
def ok_calls (t : Vector UInt8 7) : List Event :=
  [.set_time (ok_time t), .set_date [getElem (ok_date t) 4 day_lt, getElem (ok_date t) 5 month_lt,
    getElem (ok_date t) 6 year_lt]]

def ok_pressed (w : World) : World :=
  if w.time_number = 20 then w.date_moved 0
  else (w.clock_sent (ok_time w.my_time) (ok_calls w.my_time)).date_moved 20

def return_pressed (w : World) : World :=
  if w.time_number < 20 then { w with time_number := 20, thread_time := 9 }
  else { w with MS := 1, thread_time := 0, choose := 0 }

def ax_key (w : World) : World :=
  if w.button_number < 10 then w.digit_pressed
  else if w.button_number = BUTTON_UP ∨ w.button_number = BUTTON_LEFT then w.back_pressed
  else if w.button_number = BUTTON_DOWN ∨ w.button_number = BUTTON_RIGHT then w.forward_pressed
  else if w.button_number = BUTTON_OK then w.ok_pressed
  else if w.button_number = BUTTON_RETUEN then w.return_pressed
  else w

section keys
variable (w : World)

@[simp] theorem date_moved_button_number (t : ℕ) :
    (w.date_moved t).button_number = w.button_number := rfl

section clock_sent
variable (t t' : Vector UInt8 7) (calls calls' : List Event)

@[simp] theorem clock_sent_button_number :
    (w.clock_sent t calls).button_number = w.button_number := rfl

@[simp] theorem clock_sent_my_time : (w.clock_sent t calls).my_time = t := rfl

@[simp] theorem clock_sent_same : w.clock_sent w.my_time [] = w := rfl

@[simp] theorem clock_sent_sent :
    (w.clock_sent t calls).clock_sent t' calls' = w.clock_sent t' (calls' ++ calls) := by
  simp only [clock_sent, List.append_assoc]

@[simp] theorem clock_sent_happen (e : Event) :
    (w.clock_sent t calls).happen e = w.clock_sent t (e :: calls) := rfl

@[simp] theorem clock_sent_set_time :
    (w.clock_sent t calls).set_time = w.clock_sent t (.set_time t :: calls) := rfl

end clock_sent

@[simp] theorem digit_pressed_button_number :
    w.digit_pressed.button_number = w.button_number := by
  unfold digit_pressed
  split_ifs <;> rfl

@[simp] theorem back_pressed_button_number : w.back_pressed.button_number = w.button_number := by
  unfold back_pressed
  split_ifs <;> rfl

@[simp] theorem forward_pressed_button_number :
    w.forward_pressed.button_number = w.button_number := by
  unfold forward_pressed
  split_ifs <;> rfl

@[simp] theorem ok_pressed_button_number : w.ok_pressed.button_number = w.button_number := by
  unfold ok_pressed
  split_ifs
  · rfl
  · rw [date_moved_button_number, clock_sent_button_number]

end keys

end World

section exec
variable (n : ℕ) (w : World)

theorem clamp_exec (i j : Fin 7) (max : UInt8) :
    (clamp i j max).exec n w = some (w.clock_sent (clamped i j max w.my_time) []) := by
  rw [clamp, exec_cond, clamped]
  by_cases h : max < w.my_time[i]
  · rw [if_pos (decide_eq_true h), if_pos h]
    rfl
  · rw [if_neg (by simpa using h), if_neg h, clock_sent_same]

theorem blink_date_exec : blink_date.exec n w = some w.date_blinked := by
  by_cases ht : w.thread_time % 10 = 0
  · by_cases hd : w.time_number = 20 <;> simp [blink_date, date_blinked, ht, hd]
  · simp [blink_date, date_blinked, ht]

theorem ax_digit_key_exec (h : w.time_number < 12) :
    ax_digit_key.exec n w = some w.digit_pressed := by
  rw [digit_pressed, if_pos h]
  rfl

/-- The slot that has been chosen is shown. -/
theorem show_ax_addr_exec (addr : ℕ) : (block [show_ax_record fun w => w.show_ax_addr]).exec n
    { w with show_ax_addr := addr } = some (w.browsed addr) := by
  rw [exec_block_cons, show_ax_record_exec fun _ => rfl]
  rfl

theorem ax_back_key_exec : ax_back_key.unchecked.exec n w = some w.back_pressed := by
  have hsplit : ax_back_key.unchecked = .ite (fun w => w.time_number = 20)
      (.cond (fun w => w.dfs.get_ax5045len_data ≠ 0) (block [
        .ite (fun w => w.show_ax_addr ≠ 0)
          (.act fun w => { w with show_ax_addr := w.show_ax_addr - 1 })
          (block [.skip,
            .act fun w => { w with show_ax_addr := (stat_number w + 0xffff) % 0x10000 }]),
        show_ax_record fun w => w.show_ax_addr]))
      (block [
        .act fun w => { w with
          time_number := if w.time_number ≠ 0 then w.time_number - 1 else 11 },
        redraw_date]) := rfl
  rw [hsplit, exec_ite, back_pressed]
  by_cases hd : w.time_number = 20
  · rw [if_pos (decide_eq_true hd), if_pos hd, exec_cond]
    by_cases hl : w.dfs.get_ax5045len_data = 0
    · rw [if_neg (by simpa using hl), if_neg (not_not_intro hl)]
    · rw [if_pos (by simpa using hl), if_pos hl, exec_block_cons, exec_ite, back_addr]
      by_cases ha : w.show_ax_addr = 0
      · rw [if_neg (by simpa using ha), if_neg (not_not_intro ha), exec_block_cons, exec_skip,
          Option.bind_some, exec_block_cons, exec_act, Option.bind_some, exec_block_nil,
          Option.bind_some, show_ax_addr_exec]
      · rw [if_pos (by simpa using ha), if_pos ha, exec_act, Option.bind_some, show_ax_addr_exec]
  · rw [if_neg (by simpa using hd), if_neg hd]
    rfl

theorem ax_forward_key_exec : ax_forward_key.unchecked.exec n w = some w.forward_pressed := by
  have hsplit : ax_forward_key.unchecked = .ite (fun w => w.time_number = 20)
      (.cond (fun w => w.dfs.get_ax5045len_data ≠ 0) (block [
        .act fun w => { w with show_ax_addr := (w.show_ax_addr + 1) % 0x10000 },
        .skip,
        .act fun w => { w with show_ax_addr := w.show_ax_addr % stat_number w },
        show_ax_record fun w => w.show_ax_addr]))
      (block [
        .act fun w => { w with time_number := (w.time_number + 1) % 12 },
        redraw_date]) := rfl
  rw [hsplit, exec_ite, forward_pressed]
  by_cases hd : w.time_number = 20
  · rw [if_pos (decide_eq_true hd), if_pos hd, exec_cond]
    by_cases hl : w.dfs.get_ax5045len_data = 0
    · rw [if_neg (by simpa using hl), if_neg (not_not_intro hl)]
    · rw [if_pos (by simpa using hl), if_pos hl, exec_block_cons, exec_act, Option.bind_some,
        exec_block_cons, exec_skip, Option.bind_some, exec_block_cons, exec_act, Option.bind_some]
      exact show_ax_addr_exec n w w.forward_addr
  · rw [if_neg (by simpa using hd), if_neg hd]
    rfl

theorem ax_ok_key_exec : ax_ok_key.exec n w = some w.ok_pressed := by
  unfold ok_pressed
  by_cases hd : w.time_number = 20
  · simp [ax_ok_key, redraw_date, date_moved, hd]
  · rw [ax_ok_key, exec_ite, if_neg (by simpa using hd), if_neg hd]
    simp only [exec_block_cons, exec_block_nil, exec_act, clamp_exec, redraw_date, Option.bind_some,
      clock_sent_sent, clock_sent_my_time, clock_sent_happen, clock_sent_set_time, List.nil_append,
      date_moved, ok_calls, ok_time, ok_date]

theorem ax_return_key_exec : ax_return_key.exec n w = some w.return_pressed := by
  unfold return_pressed
  by_cases hd : w.time_number < 20 <;> simp [ax_return_key, hd]

/-- **The keys of state `11`.** -/
theorem MS_thread_ax_exec : MS_thread_ax.unchecked.exec n w = some w.date_blinked.ax_key := by
  have hsplit : MS_thread_ax.unchecked = block [blink_date,
      .cond (fun w => w.button_number ≠ 16) (block [
        .cond (fun w => w.button_number < 10 ∧ w.time_number < 12) ax_digit_key,
        .cond (fun w => w.button_number = BUTTON_UP ∨ w.button_number = BUTTON_LEFT)
          ax_back_key.unchecked,
        .cond (fun w => w.button_number = BUTTON_DOWN ∨ w.button_number = BUTTON_RIGHT)
          ax_forward_key.unchecked,
        .cond (fun w => w.button_number = BUTTON_OK) ax_ok_key,
        .cond (fun w => w.button_number = BUTTON_RETUEN) ax_return_key])] := rfl
  rw [hsplit, exec_block_cons, blink_date_exec, Option.bind_some]
  generalize w.date_blinked = v
  by_cases hb : v.button_number < 10
  · have hne : ∀ k, 10 ≤ k → v.button_number ≠ k := by omega
    by_cases ht : v.time_number < 12
    · simp [ax_key, ax_digit_key_exec, hb, ht, hne, BUTTON_UP, BUTTON_LEFT, BUTTON_DOWN,
        BUTTON_RIGHT, BUTTON_OK, BUTTON_RETUEN]
    · simp [ax_key, digit_pressed, hb, ht, hne, BUTTON_UP, BUTTON_LEFT, BUTTON_DOWN, BUTTON_RIGHT,
        BUTTON_OK, BUTTON_RETUEN]
  by_cases hback : v.button_number = 10 ∨ v.button_number = 13
  · rcases hback with hk | hk <;>
      simp [ax_key, ax_back_key_exec, hk, BUTTON_UP, BUTTON_LEFT, BUTTON_DOWN, BUTTON_RIGHT,
        BUTTON_OK, BUTTON_RETUEN]
  by_cases hforward : v.button_number = 11 ∨ v.button_number = 14
  · rcases hforward with hk | hk <;>
      simp [ax_key, ax_forward_key_exec, hk, BUTTON_UP, BUTTON_LEFT, BUTTON_DOWN, BUTTON_RIGHT,
        BUTTON_OK, BUTTON_RETUEN]
  obtain ⟨hup, hleft⟩ := not_or.mp hback
  obtain ⟨hdown, hright⟩ := not_or.mp hforward
  by_cases hok : v.button_number = 15
  · simp [ax_key, ax_ok_key_exec, hok, BUTTON_UP, BUTTON_LEFT, BUTTON_DOWN, BUTTON_RIGHT, BUTTON_OK,
      BUTTON_RETUEN]
  by_cases hreturn : v.button_number = 12
  · simp [ax_key, ax_return_key_exec, hreturn, BUTTON_UP, BUTTON_LEFT, BUTTON_DOWN, BUTTON_RIGHT,
      BUTTON_OK, BUTTON_RETUEN]
  · simp [ax_key, hb, hup, hleft, hdown, hright, hok, hreturn, BUTTON_UP, BUTTON_LEFT, BUTTON_DOWN,
      BUTTON_RIGHT, BUTTON_OK, BUTTON_RETUEN]

end exec

/-! ### The states `10` and `12` -/

namespace World

/-- The display is cleared and the clock is read. -/
def log_opened (w : World) : World :=
  { { w with screen := none }.get_date with show_ax_addr := w.dfs.get_ax5045len_data }

/-- The newest record is shown, if the counter knows of one. -/
def log_shown (w : World) : World :=
  if w.dfs.get_ax5045len_data ≠ 0 then w.log_opened.show_slot (w.dfs.get_ax5045len_data - 1)
  else w.log_opened

/-- The radio log is entered. -/
def log_entered (w : World) : World := { w.log_shown with time_number := 20, MS := 11 }

/-- The packet of the decoder is appended to the log and its counter goes on. -/
def packet_stored (w : World) : World :=
  let w := { w with data := w.radio.Controllable_Ms_flag }.set_ax_record
  w.set_Record_txt w.dfs.get_recordled_data ((w.dfs.get_ax5045len_data + 1) % 0x10000)

/-- The packet is shown. -/
def packet_shown (w : World) : World :=
  show_ax_data { w with
    addr := if w.dfs.get_ax5045len_data = 0 then AX5043_MAX else w.dfs.get_ax5045len_data }

/-- A packet is stored and shown, and the clock is read. -/
def packet_handled (w : World) : World :=
  { w.packet_stored.packet_shown.get_date with
    show_ax_addr := w.packet_stored.dfs.get_ax5045len_data
    MS := 11 }

end World

section exec
variable (n : ℕ) (w : World)

theorem MS_thread_ax_start_exec :
    MS_thread_ax_start.unchecked.exec n w = some w.log_entered := by
  have hsplit : MS_thread_ax_start.unchecked = MS_thread_ax_start := rfl
  have hshow : ∀ v : World, (show_ax_record fun w => w.show_ax_addr - 1).exec n v =
      some (v.show_slot (v.show_ax_addr - 1)) := fun v => show_ax_record_exec (w := v) (fun _ => rfl) n
  rw [hsplit]
  by_cases h : w.dfs.get_ax5045len_data = 0
  · simp [MS_thread_ax_start, log_entered, log_shown, log_opened, get_date, tick, h]
  · simp [MS_thread_ax_start, log_entered, log_shown, log_opened, get_date, tick, hshow, h]

/-- What follows the store of a packet. -/
theorem show_packet_exec : (block [
    .act fun w => { w with addr := w.dfs.get_ax5045len_data },
    .cond (fun w => w.addr = 0) (.act fun w => { w with addr := AX5043_MAX }),
    .act show_ax_data,
    .act get_date,
    .act fun w => { w with show_ax_addr := w.dfs.get_ax5045len_data },
    .act fun w => { w with MS := 11 }]).exec n w = some
      { w.packet_shown.get_date with
        show_ax_addr := w.dfs.get_ax5045len_data
        MS := 11 } := by
  by_cases h : w.dfs.get_ax5045len_data = 0
  · simp [packet_shown, show_ax_data, get_date, tick, now, h]
  · simp [packet_shown, show_ax_data, get_date, tick, now, h]

theorem MS_thread_ax_refresh_exec :
    MS_thread_ax_refresh.unchecked.exec n w = some w.packet_handled :=
  show_packet_exec n w.packet_stored

end exec

/-! ### Whole turns -/

section turns
variable {w : World}

theorem ax_turn (h : w.MS = 11) :
    Task.main.go w = some w.entered.date_blinked.ax_key.ticked := by
  rw [Task.go, main_turn_go, h]
  exact congrArg (Option.map ticked) (MS_thread_ax_exec 0 w.entered)

theorem ax_start_turn (h : w.MS = 10) : Task.main.go w = some w.entered.log_entered.ticked := by
  rw [Task.go, main_turn_go, h]
  exact congrArg (Option.map ticked) (MS_thread_ax_start_exec 0 w.entered)

theorem ax_refresh_turn (h : w.MS = 12) :
    Task.main.go w = some w.entered.packet_handled.ticked := by
  rw [Task.go, main_turn_go, h]
  exact congrArg (Option.map ticked) (MS_thread_ax_refresh_exec 0 w.entered)

end turns

end MeterTester
