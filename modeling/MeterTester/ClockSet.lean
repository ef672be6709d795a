import MeterTester.AxTurn

/-! # Setting the clock: `MS_thread_SetTime` and the editor of the date

Two editors set the clock.  That of the settings takes the time from six digit cells when the cursor
leaves their row or the settings are confirmed (`Commits`); that of the date edits `my_time` itself
and sets the clock at OK.  Both cut what is too large just before the call.

The first one cuts the wrong field: hours above `23` set the seconds to `23`, and seconds above `59`
set the hours to `59`.  The second one takes a month or a day of `0` for less than nothing, which a
byte never is.  `clock_set_iff`: along a run every call is valid exactly when no turn sets the clock
from such a time or date (`Settable`). -/

namespace MeterTester

open Interleave Interleave.Prog World

/-! ### The calls of a part of the program -/

/-- The calls that set the clock. -/
def Event.setsClock : Event → Bool
  | .set_time _ | .set_date _ => true
  | _ => false

/-- The history has grown, and `calls` is what is new of the calls that set the clock. -/
def Adds (calls : List Event) (w w' : World) : Prop :=
  ∃ new, w'.log = new ++ w.log ∧ new.filter Event.setsClock = calls

theorem Adds.refl (w : World) : Adds [] w w := ⟨[], rfl, rfl⟩

theorem Adds.trans {calls calls' : List Event} {w w' w'' : World} (h : Adds calls w w')
    (h' : Adds calls' w' w'') : Adds (calls' ++ calls) w w'' := by
  obtain ⟨new, hl, hc⟩ := h
  obtain ⟨new', hl', hc'⟩ := h'
  refine ⟨new' ++ new, ?_, ?_⟩
  · rw [hl', hl, List.append_assoc]
  · rw [List.filter_append, hc, hc']

/-- What was new in a turn. -/
def new_calls (w w' : World) : List Event := w'.log.take (w'.log.length - w.log.length)

theorem Adds.mem_new_calls {calls : List Event} {w w' : World} (h : Adds calls w w') {e : Event}
    (he : e.setsClock = true) : e ∈ new_calls w w' ↔ e ∈ calls := by
  obtain ⟨new, hl, hc⟩ := h
  rw [new_calls, hl, List.length_append, Nat.add_sub_cancel, List.take_left, ← hc, List.mem_filter]
  exact (and_iff_left he).symm

theorem Adds.log_eq {calls : List Event} {w w' : World} (h : Adds calls w w') :
    w'.log = new_calls w w' ++ w.log := by
  obtain ⟨new, hl, -⟩ := h
  rw [new_calls, hl, List.length_append, Nat.add_sub_cancel, List.take_left]

/-- A statement that does not set the clock. -/
structure Silent (w w' : World) : Prop where
  log : Adds [] w w'
  button_number : w'.button_number = w.button_number

theorem Silent.refl (w : World) : Silent w w := ⟨.refl w, rfl⟩

theorem Silent.trans {w w' w'' : World} (h : Silent w w') (h' : Silent w' w'') : Silent w w'' :=
  ⟨h.log.trans h'.log, h'.button_number.trans h.button_number⟩

theorem silent_plain {w w' : World}
    (h : w'.log = w.log ∧ w'.button_number = w.button_number := by exact ⟨rfl, rfl⟩) : Silent w w' :=
  ⟨⟨[], h.1, rfl⟩, h.2⟩

theorem call_file_silent {w : World} {p : Path} {creat : Bool} {e : Event} {f : Dfs → Dfs}
    (he : e.setsClock = false) : Silent w (w.call_file p creat e f) := by
  refine ⟨?_, rfl⟩
  simp only [call_file, Adds]
  split_ifs
  · exact ⟨[e], rfl, by rw [List.filter_singleton, he]; rfl⟩
  · exact ⟨[], rfl, rfl⟩

/-- A program of such statements. -/
theorem silent_go {p : Prog World} (h : p.All Silent) {n : ℕ} {w w' : World}
    (he : p.unchecked.exec n w = some w') : Silent w w' :=
  (Keeps.unchecked (h.keeps fun _ _ hs hw => Silent.trans hw hs)).exec (.refl w) he

theorem GetTime_silent : MS_thread_GetTime.All Silent :=
  ⟨fun _ => silent_plain, fun _ => silent_plain, trivial⟩

theorem test_silent : MS_thread_test.All Silent := by
  have hsteps : TestSteps Silent :=
    ⟨fun c w => ⟨⟨[.command (c w)], rfl, rfl⟩, rfl⟩, fun _ => silent_plain, fun _ => silent_plain,
      fun _ _ => silent_plain, fun _ _ => silent_plain, fun _ _ _ => silent_plain,
      fun _ _ => silent_plain, fun _ => silent_plain⟩
  exact ⟨fun _ => silent_plain, ⟨hsteps.test0, hsteps.test1⟩, fun _ => silent_plain, trivial,
    fun _ => call_file_silent rfl, fun _ => silent_plain, trivial⟩

/-- Only the functions of the two editors set the clock. -/
theorem functions_silent : ∀ k, k ≠ 2 → k ≠ 11 → (MS_function k).All Silent := by
  have hredraw : redraw.All Silent := fun _ => silent_plain
  have hshow : show_settings.All Silent :=
    ⟨fun _ => silent_plain, fun _ => silent_plain, GetTime_silent, trivial⟩
  have hadd : ∀ len, (increment len).All Silent :=
    increment_all (fun _ _ => silent_plain) fun _ _ _ => silent_plain
  have hinit : MS_thread_init.All Silent :=
    ⟨fun _ => silent_plain, fun _ => silent_plain, fun _ => silent_plain, fun _ => silent_plain,
      trivial⟩
  have hselect : MS_thread_SelectMode.All Silent :=
    ⟨⟨fun _ => silent_plain, trivial⟩,
      ⟨⟨⟨⟨fun _ => silent_plain, hredraw, trivial⟩, trivial⟩,
        ⟨⟨fun _ => silent_plain, fun _ => silent_plain, hredraw, trivial⟩, trivial⟩,
        ⟨⟨fun _ => silent_plain, fun _ => silent_plain, ⟨GetTime_silent, trivial⟩,
          ⟨fun _ => silent_plain, trivial⟩, trivial⟩, trivial⟩, trivial⟩, trivial⟩, trivial⟩
  have herror : MS_thread_ERROR.All Silent :=
    ⟨⟨fun _ => silent_plain, trivial⟩, fun _ => silent_plain, ⟨fun _ => silent_plain, trivial⟩,
      ⟨hshow, trivial⟩, trivial⟩
  have hpass : MS_thread_pass.All Silent :=
    ⟨⟨trivial, ⟨hadd 8, hadd 6⟩, fun _ => call_file_silent rfl, hshow, trivial⟩, trivial⟩
  have hstart : MS_thread_ax_start.All Silent :=
    ⟨fun _ => silent_plain, fun _ => silent_plain, fun _ => silent_plain,
      ⟨⟨fun _ => silent_plain, fun _ => silent_plain, trivial⟩, trivial⟩, fun _ => silent_plain,
      fun _ => silent_plain, trivial⟩
  have hrefresh : MS_thread_ax_refresh.All Silent :=
    ⟨fun _ => silent_plain, fun _ => call_file_silent rfl, fun _ => silent_plain,
      fun _ => silent_plain, ⟨fun _ => silent_plain, trivial⟩, fun _ => silent_plain,
      fun _ => silent_plain, fun _ => silent_plain, fun _ => silent_plain, trivial⟩
  exact MS_function_cases (Q := fun k p => k ≠ 2 → k ≠ 11 → p.All Silent) (fun _ _ => hinit)
    (fun _ _ => hselect) (fun h _ => absurd rfl h) (fun _ _ => test_silent) (fun _ _ => herror)
    (fun _ _ => hpass) (fun _ _ => hstart) (fun _ h => absurd rfl h) (fun _ _ => hrefresh)
    fun _ _ _ => trivial

/-- The keys of the settings, apart from OK. -/
theorem settings_keys_silent : digit_key.All Silent ∧ up_key.All Silent ∧ down_key.All Silent ∧
    left_key.All Silent ∧ right_key.All Silent ∧ return_key.All Silent := by
  have hredraw : redraw.All Silent := fun _ => silent_plain
  refine ⟨?_, ?_, ?_, ?_, ?_, ?_⟩
  · exact ⟨⟨⟨trivial, fun _ => silent_plain, trivial⟩, ⟨trivial, fun _ => silent_plain, trivial⟩,
        ⟨trivial, fun _ => silent_plain, trivial⟩, trivial⟩,
      fun _ => silent_plain, ⟨⟨fun _ => silent_plain, trivial⟩, fun _ => silent_plain, trivial⟩,
      hredraw, trivial⟩
  · exact ⟨⟨fun _ => silent_plain, trivial⟩, ⟨fun _ => silent_plain, fun _ => silent_plain⟩,
      hredraw, trivial⟩
  · exact ⟨⟨fun _ => silent_plain, trivial⟩, fun _ => silent_plain, fun _ => silent_plain, hredraw,
      trivial⟩
  · exact ⟨⟨fun _ => silent_plain, fun _ => silent_plain, fun _ => silent_plain⟩, hredraw, trivial⟩
  · exact ⟨fun _ => silent_plain, ⟨fun _ => silent_plain, fun _ => silent_plain⟩, hredraw, trivial⟩
  · exact ⟨⟨fun _ => silent_plain, hredraw, trivial⟩,
      ⟨fun _ => silent_plain, hredraw, fun _ => silent_plain, trivial⟩,
      fun _ => silent_plain, fun _ => silent_plain, trivial⟩

/-! ### The editor of the settings -/

/-- `my_time` with the time in the cells of the settings. -/
def typed_time (w : World) : Vector UInt8 7 :=
  ((w.my_time.set 2 (cells_time w 1) hour_lt).set 1 (cells_time w 4) minute_lt).set 0
    (cells_time w 7) second_lt

/-- What `MS_thread_SetTime` makes of a time. -/
def sent_time (t : Vector UInt8 7) : Vector UInt8 7 :=
  clamped 0 2 59 (clamped 1 1 59 (clamped 2 0 23 t))

/-- The clock is set to the time in the cells. -/
def World.time_set (w : World) : World :=
  w.clock_sent (sent_time (typed_time w)) [.set_time (sent_time (typed_time w))]

section set_time
variable (n : ℕ) (w : World)

@[simp] theorem cells_time_clock_sent (t : Vector UInt8 7) (calls : List Event) (i : Fin 9) :
    cells_time (w.clock_sent t calls) i = cells_time w i := rfl

/-- A field of `my_time` is taken from its cells. -/
theorem store_cells_exec (k : ℕ) (hk : k < 7) (i : Fin 9) :
    (act fun w : World => { w with my_time := w.my_time.set k (cells_time w i) hk }).exec n w =
      some (w.clock_sent (w.my_time.set k (cells_time w i) hk) []) := rfl

theorem MS_thread_SetTime_exec : MS_thread_SetTime.exec n w = some w.time_set := by
  rw [MS_thread_SetTime, exec_block_cons, store_cells_exec, Option.bind_some, exec_block_cons,
    store_cells_exec, Option.bind_some, exec_block_cons, store_cells_exec, Option.bind_some, time_set]
  simp only [exec_block_cons, exec_block_nil, clamp_exec, exec_act, Option.bind_some,
    clock_sent_sent, clock_sent_my_time, cells_time_clock_sent, clock_sent_set_time,
    List.nil_append, sent_time, typed_time]

/-- The edited time is taken over where an edit is pending. -/
theorem take_over_exec :
    (block [.act fun w => { w with setting_time := 0 }, MS_thread_SetTime]).exec n w =
      some { w with setting_time := 0 }.time_set := by
  rw [exec_block_cons, exec_act, Option.bind_some, exec_block_cons, MS_thread_SetTime_exec,
    Option.bind_some, exec_block_nil]

end set_time

theorem time_row_go {n : ℕ} {w : World} :
    (w.setting_time = 1 ∧ ¬ (20 ≤ w.choose_number ∧ w.choose_number ≤ 25) →
      time_row.exec n w = some { w with setting_time := 0 }.time_set) ∧
    (¬ (w.setting_time = 1 ∧ ¬ (20 ≤ w.choose_number ∧ w.choose_number ≤ 25)) →
      ∃ w', time_row.exec n w = some w' ∧ Silent w w') := by
  constructor
  · rintro ⟨hs, hrow⟩
    rw [time_row, exec_ite, if_neg (by simpa using hrow), exec_cond, if_pos (decide_eq_true hs),
      take_over_exec n w]
  · intro h
    by_cases hrow : 20 ≤ w.choose_number ∧ w.choose_number ≤ 25
    · rw [time_row, exec_ite, if_pos (decide_eq_true hrow), exec_cond]
      split_ifs
      · exact ⟨_, rfl, silent_plain⟩
      · exact ⟨w, rfl, .refl w⟩
    · have hs : w.setting_time ≠ 1 := fun hs => h ⟨hs, hrow⟩
      rw [time_row, exec_ite, if_neg (by simpa using hrow), exec_cond, if_neg (by simpa using hs)]
      exact ⟨w, rfl, .refl w⟩

/-- The keys that set the clock: an arrow out of the row of the time, and OK. -/
def Committing (key choose choose_number : ℕ) : Prop :=
  (Arrow key ∧ ¬ (20 ≤ moved choose key choose_number ∧ moved choose key choose_number ≤ 25)) ∨
    (key = BUTTON_OK ∧ choose_number < 30)

section settings_key
variable {n : ℕ} {w w' : World}

theorem typed_time_move (w : World) (k : ℕ) : typed_time (w.move k) = typed_time w := rfl

theorem typed_time_other (w : World) (s : ℕ) (d : Dfs) (l : List Event) :
    typed_time { w with setting_time := s, dfs := d, log := l } = typed_time w := rfl

theorem time_set_adds (w : World) : Adds [.set_time (sent_time (typed_time w))] w w.time_set :=
  ⟨[.set_time (sent_time (typed_time w))], rfl, rfl⟩

theorem settings_key_unchecked : settings_key.unchecked =
    .cond (fun w => w.button_number ≠ 16) (block [
      .cond (fun w => w.button_number < 10 ∧ w.choose_number < 30) digit_key.unchecked,
      .cond (fun w => w.button_number = BUTTON_UP) up_key,
      .cond (fun w => w.button_number = BUTTON_DOWN) down_key,
      .cond (fun w => w.button_number = BUTTON_LEFT) left_key,
      .cond (fun w => w.button_number = BUTTON_RIGHT) right_key,
      .cond is_arrow time_row,
      .cond (fun w => w.button_number = BUTTON_RETUEN) return_key,
      .cond (fun w => w.button_number = BUTTON_OK) ok_key]) := rfl

theorem settings_key_arrow_go (hk : Arrow w.button_number) (h : time_row.exec n
    (w.move (moved w.choose w.button_number w.choose_number)) = some w')
    (hb : w'.button_number = w.button_number) : settings_key.unchecked.exec n w = some w' := by
  rw [settings_key_unchecked]
  rcases hk with hk | hk | hk | hk
  all_goals
    simp only [hk, moved, BUTTON_UP, BUTTON_DOWN, BUTTON_LEFT, BUTTON_RIGHT, Nat.reduceLT,
      Nat.reduceEqDiff, if_true, if_false] at h
    simp [hk, up_key_exec, down_key_exec, left_key_exec, right_key_exec, is_arrow, BUTTON_UP,
      BUTTON_DOWN, BUTTON_LEFT, BUTTON_RIGHT, BUTTON_RETUEN, BUTTON_OK, h, hb]

theorem settings_key_ok_go (hk : w.button_number = BUTTON_OK) :
    settings_key.unchecked.exec n w = ok_key.exec n w := by
  obtain ⟨v, hv, -⟩ := ok_key_exec n (w := w)
  rw [settings_key_unchecked, hv]
  simp [hk, is_arrow, BUTTON_UP, BUTTON_DOWN, BUTTON_LEFT, BUTTON_RIGHT, BUTTON_RETUEN, BUTTON_OK,
    hv]

/-- The other keys do not set the clock. -/
theorem settings_key_silent (hk : ¬ Arrow w.button_number) (hok : w.button_number ≠ BUTTON_OK) :
    Ends n (Silent w) settings_key.unchecked (Silent w) := by
  obtain ⟨hdigit, hup, hdown, hleft, hright, hreturn⟩ := settings_keys_silent
  have hkept : ∀ {c : World → Bool} {p : Prog World}, p.All Silent →
      Ends n (Silent w) (.cond c p) (Silent w) := fun h =>
    .cond_keeps (.of_keeps (h.keeps fun _ _ hs hw => hw.trans hs))
  have hunreached : ∀ {c : World → Bool} {p : Prog World}, (∀ v, Silent w v → c v = false) →
      Ends n (Silent w) (.cond c p) (Silent w) := fun h =>
    .cond (fun v _ hv _ => absurd hv.2 (by rw [h v hv.1]; decide)) fun _ hv _ => hv
  rw [settings_key_unchecked]
  refine .cond_keeps <| .block_cons (.cond_keeps (.of_keeps (Keeps.unchecked
      (hdigit.keeps fun _ _ hs hw => hw.trans hs)))) <| .block_cons (hkept hup) <|
    .block_cons (hkept hdown) <| .block_cons (hkept hleft) <| .block_cons (hkept hright) <|
    .block_cons (hunreached fun v hv => ?_) <| .block_cons (hkept hreturn) <|
    .block_last (hunreached fun v hv => ?_)
  · refine decide_eq_false fun h => hk ?_
    rwa [hv.button_number] at h
  · rw [hv.button_number]
    exact decide_eq_false hok

theorem ok_key_adds (h : ok_key.exec n w = some w') :
    (w.setting_time = 1 ∧ w.choose_number < 30 →
      Adds [.set_time (sent_time (typed_time w))] w w') ∧
    (¬ (w.setting_time = 1 ∧ w.choose_number < 30) → Adds [] w w') := by
  rw [ok_key, exec_cond] at h
  by_cases hlt : w.choose_number < 30
  · have hset : Silent w w.set_MSID := call_file_silent rfl
    rw [if_pos (decide_eq_true hlt), exec_block_cons, exec_act, Option.bind_some, exec_block_cons,
      exec_cond, show w.set_MSID.setting_time = w.setting_time from rfl] at h
    by_cases hs : w.setting_time = 1
    · rw [if_pos (decide_eq_true hs), take_over_exec, Option.bind_some] at h
      cases h
      refine ⟨fun _ => ?_, fun hn => absurd ⟨hs, hlt⟩ hn⟩
      have htime : typed_time { w.set_MSID with setting_time := 0 } = typed_time w :=
        typed_time_other w 0 _ _
      have hadds := time_set_adds { w.set_MSID with setting_time := 0 }
      rw [htime] at hadds
      exact hset.log.trans hadds
    · rw [if_neg (by simpa using hs), Option.bind_some] at h
      cases h
      exact ⟨fun hn => absurd hn.1 hs, fun _ => hset.log⟩
  · rw [if_neg (by simpa using hlt)] at h
    cases h
    exact ⟨fun hn => absurd hn.2 hlt, fun _ => .refl w⟩

/-- An arrow in the settings: the cursor moves, then the row of the time is looked at. -/
theorem arrow_adds (hk : Arrow w.button_number) (h : settings_key.unchecked.exec n w = some w') :
    let m := moved w.choose w.button_number w.choose_number
    (w.setting_time = 1 ∧ ¬ (20 ≤ m ∧ m ≤ 25) →
      Adds [.set_time (sent_time (typed_time w))] w w') ∧
    (¬ (w.setting_time = 1 ∧ ¬ (20 ≤ m ∧ m ≤ 25)) → Adds [] w w') := by
  intro m
  obtain ⟨hset, hkeep⟩ := time_row_go (n := n) (w := w.move m)
  constructor
  · intro hc
    have hrow := hset hc
    obtain rfl := Option.some.inj ((settings_key_arrow_go hk hrow rfl).symm.trans h)
    have hadds := time_set_adds { w.move m with setting_time := 0 }
    rwa [typed_time_other (w.move m) 0 _ _, typed_time_move] at hadds
  · intro hc
    obtain ⟨v, hv, hs⟩ := hkeep hc
    obtain rfl := Option.some.inj ((settings_key_arrow_go hk hv hs.button_number).symm.trans h)
    exact hs.log

/-- **A key of the settings** sets the clock to the time in the cells, or does not set it. -/
theorem settings_key_adds (h : settings_key.unchecked.exec n w = some w') :
    (w.setting_time = 1 ∧ Committing w.button_number w.choose w.choose_number →
      Adds [.set_time (sent_time (typed_time w))] w w') ∧
    (¬ (w.setting_time = 1 ∧ Committing w.button_number w.choose w.choose_number) →
      Adds [] w w') := by
  unfold Committing
  by_cases hk : Arrow w.button_number
  · have hne : w.button_number ≠ BUTTON_OK := by
      unfold Arrow BUTTON_UP BUTTON_DOWN BUTTON_LEFT BUTTON_RIGHT at hk
      unfold BUTTON_OK
      omega
    simp only [hk, true_and, hne, false_and, or_false]
    exact arrow_adds hk h
  by_cases hok : w.button_number = BUTTON_OK
  · rw [settings_key_ok_go hok] at h
    simp only [hk, false_and, false_or]
    simp only [hok, true_and]
    exact ok_key_adds h
  · simp only [hk, false_and, hok, or_self, and_false, false_imp_iff, not_false_iff, true_imp_iff,
      true_and]
    exact (settings_key_silent hk hok w w' (.refl w) h).log

end settings_key

/-! ### Turns -/

/-- What the blinking leaves of the settings. -/
structure Blinked (w w' : World) : Prop where
  silent : Silent w w'
  choose : w'.choose = w.choose
  choose_number : w'.choose_number = w.choose_number
  setting_time : w'.setting_time = w.setting_time
  cells : w.setting_time = 1 → typed_time w' = typed_time w

theorem blink_settings_blinked {n : ℕ} {w w' : World} (h : blink_settings.exec n w = some w') :
    Blinked w w' := by
  rw [blink_settings, exec_cond] at h
  split_ifs at h
  · rw [exec_block_cons, exec_act, Option.bind_some, exec_block_cons, exec_cond] at h
    split_ifs at h with hclock
    · have hs : w.setting_time = 0 := (of_decide_eq_true hclock).2
      cases h
      exact ⟨silent_plain, rfl, rfl, rfl, fun h₁ => absurd (hs.symm.trans h₁) (by decide)⟩
    · cases h
      exact ⟨silent_plain, rfl, rfl, rfl, fun _ => rfl⟩
  · cases h
    exact ⟨.refl w, rfl, rfl, rfl, fun _ => rfl⟩

section turn
variable {w w' : World}

/-- The turn sets the clock to the time in the cells of the settings. -/
def Commits (w : World) : Prop :=
  w.setting_time = 1 ∧ Committing w.now.button w.choose w.choose_number

theorem settings_turn_adds (hM : w.MS = 2) (h : Task.main.go w = some w') :
    (Commits w → Adds [.set_time (sent_time (typed_time w))] w w') ∧
      (¬ Commits w → Adds [] w w') := by
  rw [Task.go, main_turn_go, hM] at h
  obtain ⟨v, hv, rfl⟩ := Option.map_eq_some_iff.mp h
  obtain ⟨u, hu, hrest⟩ := Option.bind_eq_some_iff.mp hv
  obtain ⟨t, ht, hrest⟩ := Option.bind_eq_some_iff.mp hrest
  obtain ⟨s, hs, hrest⟩ := Option.bind_eq_some_iff.mp hrest
  cases hrest
  have hblink : Blinked w.entered u := blink_settings_blinked hu
  have hstart : start_button.All Silent :=
    ⟨⟨fun _ => silent_plain, ⟨fun _ => silent_plain, trivial⟩, trivial⟩, trivial⟩
  have henter : Adds [] w w.entered := ⟨[_], rfl, rfl⟩
  have hbefore : Adds [] w u := henter.trans hblink.silent.log
  have hafter : Adds [] t v.ticked := (silent_go hstart hs).log
  obtain ⟨hset, hkeep⟩ := settings_key_adds ht
  rw [hblink.setting_time, hblink.silent.button_number, hblink.choose, hblink.choose_number]
    at hset hkeep
  constructor
  · intro hc
    have hadds := hset hc
    rw [hblink.cells hc.1] at hadds
    exact (hbefore.trans hadds).trans hafter
  · exact fun hc => (hbefore.trans (hkeep hc)).trans hafter

/-- The turn is OK in the editor of the date. -/
def Dates (w : World) : Prop := w.now.button = BUTTON_OK ∧ w.time_number ≠ 20

theorem date_blinked_other (h : w.time_number ≠ 20) :
    w.date_blinked.my_time = w.my_time ∧ w.date_blinked.time_number = w.time_number := by
  unfold date_blinked
  rw [if_neg h]
  split_ifs <;> exact ⟨rfl, rfl⟩

theorem date_blinked_silent (w : World) : Silent w w.date_blinked := by
  unfold date_blinked
  split_ifs <;> exact silent_plain

theorem ok_pressed_adds :
    (w.time_number ≠ 20 → Adds (ok_calls w.my_time) w w.ok_pressed) ∧
      (w.time_number = 20 → Adds [] w w.ok_pressed) := by
  unfold ok_pressed
  constructor
  · intro h
    rw [if_neg h]
    exact ⟨ok_calls w.my_time, rfl, rfl⟩
  · intro h
    rw [if_pos h]
    exact ⟨[], rfl, rfl⟩

theorem ax_key_adds (hne : w.button_number ≠ BUTTON_OK) : Adds [] w w.ax_key := by
  have hshow : ∀ addr, Adds [] w (w.browsed addr) := fun _ => ⟨[], rfl, rfl⟩
  unfold ax_key
  split_ifs
  · unfold digit_pressed
    split_ifs
    · exact ⟨[], rfl, rfl⟩
    · exact .refl w
  · unfold back_pressed
    by_cases hd : w.time_number = 20
    · rw [if_pos hd]
      split_ifs
      · exact hshow _
      · exact .refl w
    · rw [if_neg hd]
      exact ⟨[], rfl, rfl⟩
  · unfold forward_pressed
    split_ifs
    · exact hshow _
    · exact .refl w
    · exact ⟨[], rfl, rfl⟩
  · unfold return_pressed
    split_ifs <;> exact ⟨[], rfl, rfl⟩
  · exact .refl w

theorem ax_turn_adds (hM : w.MS = 11) (h : Task.main.go w = some w') :
    (Dates w → Adds (ok_calls w.my_time) w w') ∧ (¬ Dates w → Adds [] w w') := by
  rw [ax_turn hM] at h
  cases h
  have henter : Adds [] w w.entered := ⟨[_], rfl, rfl⟩
  have hblink := date_blinked_silent w.entered
  have hbefore : Adds [] w w.entered.date_blinked := henter.trans hblink.log
  have hkey : w.entered.date_blinked.button_number = w.now.button := hblink.button_number
  have hok : w.now.button = BUTTON_OK → w.entered.date_blinked.ax_key =
      w.entered.date_blinked.ok_pressed := by
    intro hk
    rw [ax_key, hkey, hk]
    rfl
  constructor
  · rintro ⟨hk, hd⟩
    obtain ⟨htime, hnumber⟩ := date_blinked_other (w := w.entered) hd
    have hadds := ok_pressed_adds (w := w.entered.date_blinked).1 (by rw [hnumber]; exact hd)
    rw [htime] at hadds
    show Adds _ w w.entered.date_blinked.ax_key
    rw [hok hk]
    exact hbefore.trans hadds
  · intro hn
    show Adds _ w w.entered.date_blinked.ax_key
    by_cases hk : w.now.button = BUTTON_OK
    · have hd : w.time_number = 20 := not_not.mp fun hd => hn ⟨hk, hd⟩
      have hnumber : w.entered.date_blinked.time_number = 20 := by
        unfold date_blinked
        split_ifs <;> exact hd
      rw [hok hk]
      exact hbefore.trans (ok_pressed_adds.2 hnumber)
    · exact hbefore.trans (ax_key_adds (by rw [hkey]; exact hk))

theorem other_turn_adds (h₂ : w.MS ≠ 2) (h₁₁ : w.MS ≠ 11) (h : Task.main.go w = some w') :
    Adds [] w w' := by
  rw [Task.go, main_turn_go] at h
  obtain ⟨v, hv, rfl⟩ := Option.map_eq_some_iff.mp h
  have henter : Adds [] w w.entered := ⟨[_], rfl, rfl⟩
  exact henter.trans (silent_go (functions_silent w.MS h₂ h₁₁) hv).log

end turn

/-! ### Valid calls -/

/-- A time that the clock may be set to. -/
structure TimeInRange (t : Vector UInt8 7) : Prop where
  hour : getElem t 2 hour_lt ≤ 23
  minute : getElem t 1 minute_lt ≤ 59
  second : getElem t 0 second_lt ≤ 59

/-- The time `sent` is in range, and the fields of `entered` that were are unchanged. -/
structure TimeKept (entered sent : Vector UInt8 7) : Prop extends TimeInRange sent where
  same_hour : getElem entered 2 hour_lt ≤ 23 → getElem sent 2 hour_lt = getElem entered 2 hour_lt
  same_minute : getElem entered 1 minute_lt ≤ 59 →
    getElem sent 1 minute_lt = getElem entered 1 minute_lt
  same_second : getElem entered 0 second_lt ≤ 59 →
    getElem sent 0 second_lt = getElem entered 0 second_lt

/-- A day and a month that the clock may be set to. -/
def DateInRange : List UInt8 → Prop
  | [day, month, _] => (1 ≤ day ∧ day ≤ 31) ∧ 1 ≤ month ∧ month ≤ 12
  | _ => False

/-- The date `sent` is in range, and the fields of `entered` that were are unchanged. -/
structure DateKept (entered : Vector UInt8 7) (sent : List UInt8) : Prop where
  inRange : DateInRange sent
  same_day : (1 : UInt8) ≤ getElem entered 4 day_lt → getElem entered 4 day_lt ≤ 31 →
    sent.getD 0 0 = getElem entered 4 day_lt
  same_month : (1 : UInt8) ≤ getElem entered 5 month_lt → getElem entered 5 month_lt ≤ 12 →
    sent.getD 1 0 = getElem entered 5 month_lt
  same_year : sent.getD 2 0 = getElem entered 6 year_lt

/-- The time that has been entered before a turn. -/
def entered_time (w : World) : Vector UInt8 7 := if w.MS = 2 then typed_time w else w.my_time

/-- A call of the turn from `w` is valid. -/
def ValidCall (w : World) : Event → Prop
  | .set_time t => TimeKept (entered_time w) t
  | .set_date d => DateKept w.my_time d
  | _ => True

/-- The turn does not set the clock from hours above `23` or seconds above `59` of the settings, nor
from a day or a month of `0`. -/
structure Settable (w : World) : Prop where
  time : w.MS = 2 → Commits w → cells_time w 1 ≤ 23 ∧ cells_time w 7 ≤ 59
  date : w.MS = 11 → Dates w → getElem w.my_time 4 day_lt ≠ 0 ∧ getElem w.my_time 5 month_lt ≠ 0

theorem validCall_other {w : World} {e : Event} (he : e.setsClock = false) : ValidCall w e := by
  cases e with
  | set_time t => cases he
  | set_date d => cases he
  | _ => trivial

theorem Adds.validCall_iff {calls : List Event} {w w' : World} (h : Adds calls w w')
    (hc : ∀ e ∈ calls, e.setsClock = true) :
    (∀ e ∈ new_calls w w', ValidCall w e) ↔ ∀ e ∈ calls, ValidCall w e := by
  constructor
  · exact fun hv e he => hv e ((h.mem_new_calls (hc e he)).mpr he)
  · intro hv e he
    cases hs : e.setsClock with
    | false => exact validCall_other hs
    | true => exact hv e ((h.mem_new_calls hs).mp he)

section kept
variable (t : Vector UInt8 7)

/-- A field is cut to its largest value. -/
def cut (max v : UInt8) : UInt8 := if max < v then max else v

theorem cut_le (max v : UInt8) : cut max v ≤ max := by
  unfold cut
  split_ifs with h
  · exact UInt8.le_refl max
  · exact UInt8.not_lt.mp h

theorem cut_of_le {max v : UInt8} (h : v ≤ max) : cut max v = v := if_neg (UInt8.not_lt.mpr h)

theorem clamped_getElem (i j : Fin 7) (max : UInt8) {k : ℕ} (hk : k < 7) :
    (clamped i j max t)[k] = if j.1 = k ∧ max < t[i] then max else t[k] := by
  unfold clamped
  by_cases h : max < t[i]
  · rw [if_pos h]
    by_cases hj : j.1 = k
    · subst hj
      rw [if_pos ⟨rfl, h⟩]
      exact Vector.getElem_set_self _
    · rw [if_neg fun hn => hj hn.1]
      exact Vector.getElem_set_ne _ _ hj
  · rw [if_neg h, if_neg fun hn => h hn.2]

/-- The settings keep a time exactly if its hours and seconds are in range. -/
theorem sent_time_kept :
    TimeKept t (sent_time t) ↔ getElem t 2 hour_lt ≤ 23 ∧ getElem t 0 second_lt ≤ 59 := by
  have h₁ : (sent_time t)[1] = cut 59 t[1] := by simp [sent_time, clamped_getElem, cut]
  by_cases hh : (23 : UInt8) < t[2]
  · have h₂ : (sent_time t)[2] = t[2] := by simp [sent_time, clamped_getElem, hh]
    refine iff_of_false (fun h => ?_) fun h => UInt8.not_le.mpr hh h.1
    have hhour := h.hour
    rw [h₂] at hhour
    exact UInt8.not_le.mpr hh hhour
  by_cases hs : (59 : UInt8) < t[0]
  · have h₂ : (sent_time t)[2] = 59 := by simp [sent_time, clamped_getElem, hh, hs]
    refine iff_of_false (fun h => ?_) fun h => UInt8.not_le.mpr hs h.2
    have hhour := h.hour
    rw [h₂] at hhour
    exact absurd hhour (by decide)
  · have h₂ : (sent_time t)[2] = t[2] := by simp [sent_time, clamped_getElem, hh, hs]
    have h₀ : (sent_time t)[0] = t[0] := by simp [sent_time, clamped_getElem, hh]
    have hhour := UInt8.not_lt.mp hh
    have hsecond := UInt8.not_lt.mp hs
    refine iff_of_true ⟨⟨?_, ?_, ?_⟩, fun _ => h₂, fun hm => ?_, fun _ => h₀⟩ ⟨hhour, hsecond⟩
    · rw [h₂]
      exact hhour
    · rw [h₁]
      exact cut_le 59 t[1]
    · rw [h₀]
      exact hsecond
    · rw [h₁, cut_of_le hm]

/-- The editor of the date keeps every time. -/
theorem ok_time_kept : TimeKept t (ok_time t) := by
  have h₂ : (ok_time t)[2] = cut 23 t[2] := by simp [ok_time, ok_date, clamped_getElem, cut]
  have h₁ : (ok_time t)[1] = cut 59 t[1] := by simp [ok_time, ok_date, clamped_getElem, cut]
  have h₀ : (ok_time t)[0] = cut 59 t[0] := by simp [ok_time, ok_date, clamped_getElem, cut]
  refine ⟨⟨?_, ?_, ?_⟩, fun h => ?_, fun h => ?_, fun h => ?_⟩
  · rw [h₂]
    exact cut_le 23 t[2]
  · rw [h₁]
    exact cut_le 59 t[1]
  · rw [h₀]
    exact cut_le 59 t[0]
  · rw [h₂, cut_of_le h]
  · rw [h₁, cut_of_le h]
  · rw [h₀, cut_of_le h]

theorem one_le_cut {max v : UInt8} (hmax : 1 ≤ max) : 1 ≤ cut max v ↔ v ≠ 0 := by
  unfold cut
  simp only [UInt8.le_iff_toNat_le, UInt8.lt_iff_toNat_lt, ne_eq, ← UInt8.toNat_inj] at *
  split_ifs <;> simp at * <;> omega

/-- The editor of the date keeps a date exactly if it has no field of `0`. -/
theorem ok_date_kept :
    DateKept t [getElem (ok_date t) 4 day_lt, getElem (ok_date t) 5 month_lt,
      getElem (ok_date t) 6 year_lt] ↔ getElem t 4 day_lt ≠ 0 ∧ getElem t 5 month_lt ≠ 0 := by
  have h₄ : (ok_date t)[4] = cut 31 t[4] := by simp [ok_date, clamped_getElem, cut]
  have h₅ : (ok_date t)[5] = cut 12 t[5] := by simp [ok_date, clamped_getElem, cut]
  have h₆ : (ok_date t)[6] = t[6] := by simp [ok_date, clamped_getElem]
  rw [h₄, h₅, h₆]
  constructor
  · intro h
    exact ⟨(one_le_cut (by decide)).mp h.inRange.1.1, (one_le_cut (by decide)).mp h.inRange.2.1⟩
  · rintro ⟨hday, hmonth⟩
    exact ⟨⟨⟨(one_le_cut (by decide)).mpr hday, cut_le 31 t[4]⟩,
      (one_le_cut (by decide)).mpr hmonth, cut_le 12 t[5]⟩, fun _ h => cut_of_le h,
      fun _ h => cut_of_le h, rfl⟩

end kept

/-- **The calls of a turn** are valid exactly if it does not set the clock from a wrong time or
date. -/
theorem turn_valid_iff {w w' : World} (h : Task.main.go w = some w') :
    (∀ e ∈ new_calls w w', ValidCall w e) ↔ Settable w := by
  have hnone : Adds [] w w' → ∀ e ∈ new_calls w w', ValidCall w e := fun ha =>
    (ha.validCall_iff fun _ he => by cases he).mpr fun _ he => by cases he
  by_cases h₂ : w.MS = 2
  · have hM : w.MS ≠ 11 := by omega
    obtain ⟨hset, hkeep⟩ := settings_turn_adds h₂ h
    have htime : (typed_time w)[2] = cells_time w 1 ∧ (typed_time w)[0] = cells_time w 7 := by
      simp [typed_time]
    by_cases hc : Commits w
    · rw [(hset hc).validCall_iff fun e he => by rw [List.mem_singleton.mp he]; rfl,
        List.forall_mem_singleton, ValidCall, entered_time, if_pos h₂, sent_time_kept, htime.1,
        htime.2]
      exact ⟨fun hv => ⟨fun _ _ => hv, fun h₁₁ => absurd h₁₁ hM⟩, fun hs => hs.time h₂ hc⟩
    · exact iff_of_true (hnone (hkeep hc)) ⟨fun _ h => absurd h hc, fun h₁₁ => absurd h₁₁ hM⟩
  by_cases h₁₁ : w.MS = 11
  · obtain ⟨hset, hkeep⟩ := ax_turn_adds h₁₁ h
    by_cases hd : Dates w
    · have hcalls : ∀ e ∈ ok_calls w.my_time, e.setsClock = true := by
        intro e he
        rcases List.mem_pair.mp he with rfl | rfl <;> rfl
      rw [(hset hd).validCall_iff hcalls, ok_calls, List.forall_mem_cons, List.forall_mem_singleton,
        ValidCall, ValidCall, entered_time, if_neg h₂, and_iff_right (ok_time_kept w.my_time),
        ok_date_kept]
      exact ⟨fun hv => ⟨fun h => absurd h h₂, fun _ _ => hv⟩, fun hs => hs.date h₁₁ hd⟩
    · exact iff_of_true (hnone (hkeep hd)) ⟨fun h => absurd h h₂, fun _ h => absurd h hd⟩
  · exact iff_of_true (hnone (other_turn_adds h₂ h₁₁ h))
      ⟨fun h => absurd h h₂, fun h => absurd h h₁₁⟩

/-- The turns of the two editors come to an end. -/
theorem editor_turn_ends {w : World} (h : w.MS = 2 ∨ w.MS = 11) :
    ∃ w', Task.main.go w = some w' := by
  rcases h with h | h
  · have hstraight : MS_thread_SettingMs.unchecked.Straight := by
      simp [MS_thread_SettingMs, blink_settings, settings_key, start_button, digit_key, write_digit,
        up_key, down_key, left_key, right_key, time_row, return_key, ok_key, redraw,
        MS_thread_GetTime, MS_thread_SetTime, clamp, Prog.cond, block, unchecked, Straight]
    obtain ⟨v, hv⟩ := hstraight.ends 0 w.entered
    exact ⟨v.ticked, by rw [Task.go, main_turn_go, h]; exact congrArg (Option.map ticked) hv⟩
  · exact ⟨_, ax_turn h⟩

/-! ### Runs -/

/-- A call with arguments in range. -/
def InRange : Event → Prop
  | .set_time t => TimeInRange t
  | .set_date d => DateInRange d
  | _ => True

theorem ValidCall.inRange {w : World} {e : Event} (h : ValidCall w e) : InRange e := by
  cases e with
  | set_time t => exact TimeKept.toTimeInRange h
  | set_date d => exact DateKept.inRange h
  | _ => trivial

/-- The radio task does not set the clock. -/
theorem radio_adds (w : World) (rssi : ℤ) (rx_buffer : List UInt8) (rx_len : ℕ) :
    Adds [] w (w.rf4068_rx_callback rssi rx_buffer rx_len) := by
  simp only [World.rf4068_rx_callback, Adds]
  split_ifs
  · exact ⟨[_], rfl, rfl⟩
  · exact ⟨[], rfl, rfl⟩

/-- Whatever runs, the history grows. -/
theorem go_adds {t : Task} {w w' : World} (h : t.go w = some w') : ∃ calls, Adds calls w w' := by
  cases t with
  | radio rssi rx_buffer rx_len =>
      cases h
      exact ⟨[], radio_adds w rssi rx_buffer rx_len⟩
  | main =>
      by_cases h₂ : w.MS = 2
      · by_cases hc : Commits w
        · exact ⟨_, (settings_turn_adds h₂ h).1 hc⟩
        · exact ⟨_, (settings_turn_adds h₂ h).2 hc⟩
      by_cases h₁₁ : w.MS = 11
      · by_cases hd : Dates w
        · exact ⟨_, (ax_turn_adds h₁₁ h).1 hd⟩
        · exact ⟨_, (ax_turn_adds h₁₁ h).2 hd⟩
      · exact ⟨_, other_turn_adds h₂ h₁₁ h⟩

section runs
variable (fs : Fs) (devices : ℕ → Device) (tasks : ℕ → Task)

/-- Before task `n` of the run, all calls so far were valid, turn by turn. -/
def AllValid (n : ℕ) : Prop :=
  ∀ m < n, ∀ w w', state_of fs devices tasks m = some w →
    state_of fs devices tasks (m + 1) = some w' → ∀ e ∈ new_calls w w', ValidCall w e

/-- No turn of the run before task `n` sets the clock from a wrong time or date. -/
def AllSettable (n : ℕ) : Prop :=
  ∀ m < n, ∀ w, state_of fs devices tasks m = some w → tasks m = .main → Settable w

variable {fs devices tasks}

theorem state_of_succ {n : ℕ} {w : World} (h : state_of fs devices tasks n = some w) :
    state_of fs devices tasks (n + 1) = (tasks n).go w := by
  rw [state_of, h, Option.bind_some]

theorem allValid_iff (n : ℕ) : AllValid fs devices tasks n ↔ AllSettable fs devices tasks n := by
  constructor
  · intro hv m hm w hw ht
    by_cases hM : w.MS = 2 ∨ w.MS = 11
    · obtain ⟨w', hw'⟩ := editor_turn_ends hM
      refine (turn_valid_iff hw').mp (hv m hm w w' hw ?_)
      rw [state_of_succ hw, ht, hw']
    · obtain ⟨h₂, h₁₁⟩ := not_or.mp hM
      exact ⟨fun h => absurd h h₂, fun h => absurd h h₁₁⟩
  · intro hs m hm w w' hw hw'
    rw [state_of_succ hw] at hw'
    cases ht : tasks m with
    | main =>
        rw [ht] at hw'
        exact (turn_valid_iff hw').mpr (hs m hm w hw ht)
    | radio rssi rx_buffer rx_len =>
        rw [ht] at hw'
        cases hw'
        exact ((radio_adds w rssi rx_buffer rx_len).validCall_iff fun _ he => by cases he).mpr
          fun _ he => by cases he

/-- All calls in the history of such a run are in range. -/
theorem AllSettable.inRange {n : ℕ} (hs : AllSettable fs devices tasks n) {w : World}
    (hw : state_of fs devices tasks n = some w) : ∀ e ∈ w.log, InRange e := by
  induction n generalizing w with
  | zero =>
      intro e he
      cases hw
      cases he
  | succ n ih =>
      intro e he
      obtain ⟨v, hv, -⟩ := Option.bind_eq_some_iff.mp hw
      obtain ⟨calls, hadds⟩ := go_adds ((state_of_succ hv).symm.trans hw)
      rw [hadds.log_eq, List.mem_append] at he
      rcases he with he | he
      · exact ((allValid_iff (n + 1)).mpr hs n (Nat.lt_succ_self n) v w hv hw e he).inRange
      · exact ih (fun m hm => hs m (by omega)) hv e he

end runs

/-- **The clock is set to valid times and dates only**, and to what has been entered where that was
in range, along a run none of whose turns sets it from hours above `23` or seconds above `59` of the
settings, or from a day or a month of `0`; and only along such a run. -/
theorem clock_set_iff (fs : Fs) (devices : ℕ → Device) (tasks : ℕ → Task) (n : ℕ) :
    ((∀ m < n, ∀ w w', state_of fs devices tasks m = some w →
        state_of fs devices tasks (m + 1) = some w' → ∀ e ∈ new_calls w w', ValidCall w e) ↔
      ∀ m < n, ∀ w, state_of fs devices tasks m = some w → tasks m = .main → Settable w) ∧
    ((∀ m < n, ∀ w, state_of fs devices tasks m = some w → tasks m = .main → Settable w) →
      ∀ w, state_of fs devices tasks n = some w → ∀ e ∈ w.log, InRange e) :=
  ⟨allValid_iff n, fun hs _ hw => AllSettable.inRange hs hw⟩

/-- A reading of the clock is a time and a date. -/
def ClockReading (t : Vector UInt8 7) : Prop :=
  TimeInRange t ∧ DateInRange [getElem t 4 day_lt, getElem t 5 month_lt, getElem t 6 year_lt]

/-- The keys of successive moments, and a clock that stands at a valid time. -/
def clocked (keys : List ℕ) (n : ℕ) : Device :=
  { keypad keys n with
    get_time := #v[8, 30, 12, 0, 24, 6, 25]
    get_date := #v[8, 30, 12, 0, 24, 6, 25] }

/-- The hours are set to `25`: UP to the row of the time, two digits, UP.  In the third moment the
clock is read. -/
def hour_keys : List ℕ := [16, BUTTON_OK, 16, BUTTON_UP, 2, 5, BUTTON_UP]

/-- The seconds are set to `75`. -/
def second_keys : List ℕ :=
  [16, BUTTON_OK, 16, BUTTON_UP, BUTTON_LEFT, BUTTON_LEFT, 7, 5, BUTTON_UP]

/-- The month is set to `0` in the radio log. -/
def month_keys : List ℕ :=
  [16, BUTTON_DOWN, BUTTON_DOWN, BUTTON_DOWN, BUTTON_OK, 16, 16, BUTTON_OK, BUTTON_RIGHT,
    BUTTON_RIGHT, 0, 0, BUTTON_OK]

/-- The arguments of the calls that set the clock, newest first. -/
def clock_calls (w : World) : List (List UInt8) :=
  (w.log.filter Event.setsClock).map fun
    | .set_time t => t.toList
    | .set_date d => d
    | _ => []

/-- Hours of `25` come through and set the seconds to `23`; seconds of `75` come through and set the
hours to `59`; a month of `0` comes through. -/
theorem not_clock_set :
    (state_of Fs.empty (clocked hour_keys) (fun _ => .main) 6).map clock_calls =
        some [[23, 30, 25, 0, 24, 6, 25]] ∧
      (state_of Fs.empty (clocked second_keys) (fun _ => .main) 8).map clock_calls =
        some [[75, 30, 59, 0, 24, 6, 25]] ∧
      (state_of Fs.empty (clocked month_keys) (fun _ => .main) 12).map clock_calls =
        some [[8, 30, 12, 0, 24, 0, 25], [24, 0, 25]] ∧
      ¬ ∀ (fs : Fs) (devices : ℕ → Device) (tasks : ℕ → Task),
        (∀ n, ClockReading (devices n).get_time ∧ ClockReading (devices n).get_date) →
          ∀ n w w', state_of fs devices tasks n = some w →
            state_of fs devices tasks (n + 1) = some w' → ∀ e ∈ new_calls w w', ValidCall w e := by
  have hour : (state_of Fs.empty (clocked hour_keys) (fun _ => .main) 6).map clock_calls =
      some [[23, 30, 25, 0, 24, 6, 25]] := by decide +kernel
  refine ⟨hour, by decide +kernel, by decide +kernel, fun hall => ?_⟩
  have hreading : ClockReading #v[8, 30, 12, 0, 24, 6, 25] :=
    ⟨⟨by decide, by decide, by decide⟩, ⟨by decide, by decide⟩, by decide, by decide⟩
  have hvalid := hall Fs.empty (clocked hour_keys) (fun _ => .main) fun _ => ⟨hreading, hreading⟩
  have hsettable : AllSettable Fs.empty (clocked hour_keys) (fun _ => .main) 6 :=
    (allValid_iff 6).mp fun m _ => hvalid m
  obtain ⟨w, hw, hcalls⟩ := Option.map_eq_some_iff.mp hour
  obtain ⟨e, hfilter, he⟩ := List.map_eq_singleton_iff.mp hcalls
  have hmem : e ∈ w.log := List.mem_of_mem_filter (by rw [hfilter]; exact List.mem_singleton_self e)
  have hrange := AllSettable.inRange hsettable hw e hmem
  cases e with
  | set_time t =>
      have ht : t.toList = [23, 30, 25, 0, 24, 6, 25] := he
      have hhour : t.toList[2]? = some t[2] := by simp
      rw [ht] at hhour
      have hle := TimeInRange.hour hrange
      rw [← Option.some.inj hhour] at hle
      exact absurd hle (by decide)
  | set_date d =>
      have hd : d = [23, 30, 25, 0, 24, 6, 25] := he
      rw [hd] at hrange
      exact hrange
  | _ => cases he

end MeterTester
