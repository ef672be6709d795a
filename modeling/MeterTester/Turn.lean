import MeterTester.MainLoop

/-! # What the statements of a turn leave alone

`main_turn_exec` takes a turn of the main loop apart: the key is read, the function of the state
`MS` runs, the tick is counted.

Most statements have nothing to do with the radio, the serials or the record files (`Aside`).  The
sections below go through the functions of the states and collect what all statements of a part
of the loop have in common, whatever order they come in: the key functions of the radio log
(`Looks`), the display of the settings (`Shows`), the change of states (`Plain`), the test up to
its record (`Test`, `Testing`), and the radio log as a whole (`Browses`). -/

namespace MeterTester

open Interleave Interleave.Prog World

/-! ### One turn -/

/-- The function that `MS_thread` calls in the state `k`. -/
def MS_function (k : ℕ) : Prog World := (MS_functions.lookup k).getD .skip

/-- A function belongs to one of nine states, or nothing is done. -/
theorem MS_function_cases {Q : ℕ → Prog World → Prop} (h₀ : Q 0 MS_thread_init)
    (h₁ : Q 1 MS_thread_SelectMode) (h₂ : Q 2 MS_thread_SettingMs) (h₃ : Q 3 MS_thread_test)
    (h₄ : Q 4 MS_thread_ERROR) (h₅ : Q 5 MS_thread_pass) (h₁₀ : Q 10 MS_thread_ax_start)
    (h₁₁ : Q 11 MS_thread_ax) (h₁₂ : Q 12 MS_thread_ax_refresh) (hskip : ∀ k, Q k .skip) :
    ∀ k, Q k (MS_function k)
  | 0 => h₀
  | 1 => h₁
  | 2 => h₂
  | 3 => h₃
  | 4 => h₄
  | 5 => h₅
  | 6 | 7 | 8 | 9 => hskip _
  | 10 => h₁₀
  | 11 => h₁₁
  | 12 => h₁₂
  | _ + 13 => hskip _

namespace World

/-- The turn has read the key and selected its function. -/
def entered (w : World) : World := select w.get_button_number

/-- `thread_time++; thread_time %= 100;` -/
def ticked (w : World) : World := { w with thread_time := (w.thread_time + 1) % 100 }

section entered
variable (w : World)

@[simp] theorem entered_button_number : w.entered.button_number = w.now.button := rfl
@[simp] theorem entered_MS : w.entered.MS = w.MS := rfl
@[simp] theorem entered_choose : w.entered.choose = w.choose := rfl
@[simp] theorem entered_choose_number : w.entered.choose_number = w.choose_number := rfl
@[simp] theorem entered_selector : w.entered.selector = w.MS := rfl
@[simp] theorem ticked_MS : w.ticked.MS = w.MS := rfl
@[simp] theorem ticked_choose : w.ticked.choose = w.choose := rfl
@[simp] theorem ticked_choose_number : w.ticked.choose_number = w.choose_number := rfl

end entered

end World

theorem main_turn_exec (n : ℕ) (w : World) :
    main_turn.exec n w = ((MS_function w.MS).exec n w.entered).map ticked := by
  have hturn : main_turn.exec n w = (MS_thread.exec n w.get_button_number).map ticked := by
    simp only [main_turn, exec_block_cons, exec_block_nil, exec_act, Option.bind_some]
    cases MS_thread.exec n w.get_button_number <;> rfl
  have hthread : MS_thread.exec n w.get_button_number = (MS_function w.MS).exec n w.entered := by
    simp only [MS_thread, exec_block_cons, exec_block_nil, exec_act, Option.bind_some, exec_switch]
    exact Option.bind_fun_some _
  rw [hturn, hthread]

/-! ### The radio task -/

/-- The radio task comes between two statements of the main loop, with a packet that may come. -/
inductive RadioTask (mayCome : World → ℤ → List UInt8 → ℕ → Prop) : World → World → Prop
  | rx {w : World} {rssi : ℤ} {rx_buffer : List UInt8} {rx_len : ℕ} :
      mayCome w rssi rx_buffer rx_len →
        RadioTask mayCome w (w.rf4068_rx_callback rssi rx_buffer rx_len)

section reach
variable {mayCome : World → ℤ → List UInt8 → ℕ → Prop} {w v : World}

/-- A turn of the loop, and the loop is still to do. -/
theorem loop_turn_reach (h : Reach (RadioTask mayCome) main_turn w .skip v) :
    Reach (RadioTask mayCome) (.seq (.forever main_turn) .skip) w
      (.seq (.forever main_turn) .skip) v := by
  have hloop : Reach (RadioTask mayCome) (.forever main_turn) w (.forever main_turn) v :=
    (Reach.refl.step (.loop_true main_turn rfl)).trans (h.seq_skip .refl)
  exact hloop.seq _

/-- A turn in which the radio task comes right behind the `switch`. -/
theorem turn_radio_reach {rssi : ℤ} {rx_buffer : List UInt8} {rx_len n : ℕ}
    (hmay : mayCome w.entered rssi rx_buffer rx_len)
    (h : (MS_function w.MS).exec n (w.entered.rf4068_rx_callback rssi rx_buffer rx_len) = some v) :
    Reach (RadioTask mayCome) main_turn w .skip v.ticked := by
  have hswitch : (switch selector MS_functions).exec n
      (w.entered.rf4068_rx_callback rssi rx_buffer rx_len) = some v := by
    rw [exec_switch]
    exact h
  have hthread : Reach (RadioTask mayCome) MS_thread w.get_button_number .skip v :=
    (exec_reach (n := n) (p := .act select) rfl).seq_skip
      (((Reach.refl.env (.rx hmay)).trans (exec_reach hswitch)).seq_skip .refl)
  exact (exec_reach (n := n) (p := .act get_button_number) rfl).seq_skip
    (hthread.seq_skip (exec_reach (n := n) rfl))

end reach

/-! ### Statements that stand aside -/

/-- Commands to the meter and to the clock. -/
def Event.IsMinor : Event → Prop
  | .command _ | .set_time _ | .set_date _ => True
  | _ => False

/-- A statement that changes neither the key, nor the radio, nor the serials, nor their file. -/
structure Aside (w w' : World) : Prop where
  button_number : w'.button_number = w.button_number
  zf_list6 : w'.zf_list6 = w.zf_list6
  radio : w'.radio = w.radio
  MSID : w'.MSID = w.MSID
  MS_MSID : w'.dfs.fs.content .MS_MSID = w.dfs.fs.content .MS_MSID
  openOk : w'.dfs.fs.openOk = w.dfs.fs.openOk
  log : w'.log = w.log ∨ ∃ e : Event, e.IsMinor ∧ w'.log = e :: w.log

/-- The statics that a statement leaves alone when it only shows something or keeps time. -/
abbrev untouched (w : World) := (w.button_number, w.zf_list6, w.radio, w.MSID, w.dfs, w.log)

/-- The statements that touch none of this. -/
theorem aside_plain {w w' : World} (h : untouched w' = untouched w) : Aside w w' := by
  simp only [untouched, Prod.mk.injEq] at h
  obtain ⟨hb, h6, hr, hid, hd, hl⟩ := h
  exact ⟨hb, h6, hr, hid, by rw [hd], by rw [hd], .inl hl⟩

theorem set_time_aside (w : World) : Aside w w.set_time :=
  ⟨rfl, rfl, rfl, rfl, rfl, rfl, .inr ⟨.set_time w.my_time, trivial, rfl⟩⟩

theorem issue_aside (c : World → Command) (w : World) : Aside w (w.issue (c w)) :=
  ⟨rfl, rfl, rfl, rfl, rfl, rfl, .inr ⟨.command (c w), trivial, rfl⟩⟩

theorem set_Record_txt_aside (r_len a_len : World → ℕ) (w : World) :
    Aside w (w.set_Record_txt (r_len w) (a_len w)) :=
  ⟨rfl, rfl, rfl, rfl, Dfs.set_Record_txt_MS_MSID _ _ _ _, Dfs.set_Record_txt_openOk _ _ _ _,
    .inl rfl⟩

/-- A statement that neither changes the state of the tester. -/
structure Looks (w w' : World) : Prop extends Aside w w' where
  MS : w'.MS = w.MS
  choose : w'.choose = w.choose

abbrev seen_only (w : World) := (untouched w, w.MS, w.choose)

section looks

theorem looks_plain {w w' : World} (h : seen_only w' = seen_only w) : Looks w w' := by
  obtain ⟨ha, h⟩ := Prod.mk.inj h
  obtain ⟨hM, hc⟩ := Prod.mk.inj h
  exact ⟨aside_plain ha, hM, hc⟩

theorem clamp_looks (i j : Fin 7) (max : UInt8) : (clamp i j max).All Looks :=
  ⟨fun _ => looks_plain rfl, trivial⟩

theorem redraw_date_looks : redraw_date.All Looks := fun _ => looks_plain rfl

theorem show_ax_record_looks (addr : World → ℕ) : (show_ax_record addr).All Looks :=
  ⟨fun _ => ⟨⟨rfl, rfl, rfl, rfl, Dfs.get_ax_Record_MS_MSID _ _, Dfs.get_ax_Record_openOk _ _,
      .inl rfl⟩, rfl, rfl⟩, fun _ => looks_plain rfl, trivial⟩

theorem blink_date_looks : blink_date.All Looks :=
  ⟨⟨fun _ => looks_plain rfl, ⟨fun _ => looks_plain rfl, trivial⟩, trivial⟩, trivial⟩

theorem ax_digit_key_looks : ax_digit_key.All Looks :=
  ⟨fun _ => looks_plain rfl, fun _ => looks_plain rfl, redraw_date_looks, trivial⟩

theorem ax_back_key_looks : ax_back_key.All Looks :=
  ⟨⟨⟨⟨fun _ => looks_plain rfl, trivial, fun _ => looks_plain rfl, trivial⟩, show_ax_record_looks _, trivial⟩,
      trivial⟩,
    fun _ => looks_plain rfl, redraw_date_looks, trivial⟩

theorem ax_forward_key_looks : ax_forward_key.All Looks :=
  ⟨⟨⟨fun _ => looks_plain rfl, trivial, fun _ => looks_plain rfl, show_ax_record_looks _, trivial⟩, trivial⟩,
    fun _ => looks_plain rfl, redraw_date_looks, trivial⟩

theorem ax_ok_key_looks : ax_ok_key.All Looks :=
  ⟨⟨fun _ => looks_plain rfl, redraw_date_looks, trivial⟩,
    clamp_looks 5 5 12, clamp_looks 4 4 31,
    fun _ => ⟨⟨rfl, rfl, rfl, rfl, rfl, rfl, .inr ⟨.set_date _, trivial, rfl⟩⟩, rfl, rfl⟩,
    clamp_looks 2 2 23, clamp_looks 1 1 59, clamp_looks 0 0 59,
    fun w => ⟨set_time_aside w, rfl, rfl⟩, fun _ => looks_plain rfl, redraw_date_looks, trivial⟩

end looks

/-! ### The display of the settings -/

/-- Showing the time, or setting the clock: of the digits only those of the time may change. -/
structure Shows (w w' : World) : Prop extends Looks w w' where
  choose_number : w'.choose_number = w.choose_number
  zf_list7 : w'.zf_list7 = w.zf_list7
  zf_list8 : ∀ i, i ∉ [1, 2, 4, 5, 7, 8] → w'.zf_list8[i]? = w.zf_list8[i]?

section shows

theorem shows_plain {w w' : World} (h : (seen_only w', w'.choose_number, w'.zf_list7, w'.zf_list8) =
    (seen_only w, w.choose_number, w.zf_list7, w.zf_list8)) : Shows w w' := by
  obtain ⟨hl, h⟩ := Prod.mk.inj h
  obtain ⟨hn, h⟩ := Prod.mk.inj h
  obtain ⟨h7, h8⟩ := Prod.mk.inj h
  exact ⟨looks_plain hl, hn, h7, fun i _ => by rw [h8]⟩

theorem show_time_shows (w : World) : Shows w (show_time w) := by
  refine ⟨looks_plain rfl, rfl, rfl, fun i hi => ?_⟩
  simp only [List.mem_cons, List.not_mem_nil, or_false, not_or] at hi
  obtain ⟨h₁, h₂, h₄, h₅, h₇, h₈⟩ := hi
  simp [show_time, Ne.symm h₁, Ne.symm h₂, Ne.symm h₄, Ne.symm h₅, Ne.symm h₇, Ne.symm h₈]

theorem MS_thread_GetTime_shows : MS_thread_GetTime.All Shows :=
  ⟨fun _ => shows_plain rfl, show_time_shows, trivial⟩

theorem MS_thread_SetTime_shows : MS_thread_SetTime.All Shows :=
  ⟨fun _ => shows_plain rfl, fun _ => shows_plain rfl, fun _ => shows_plain rfl,
    ⟨fun _ => shows_plain rfl, trivial⟩, ⟨fun _ => shows_plain rfl, trivial⟩,
    ⟨fun _ => shows_plain rfl, trivial⟩,
    fun w => ⟨⟨set_time_aside w, rfl, rfl⟩, rfl, rfl, fun _ _ => rfl⟩, trivial⟩

theorem blink_settings_shows : blink_settings.All Shows :=
  ⟨⟨fun _ => shows_plain rfl, ⟨MS_thread_GetTime_shows, trivial⟩, trivial⟩, trivial⟩

theorem time_row_shows : time_row.All Shows :=
  ⟨⟨fun _ => shows_plain rfl, trivial⟩, ⟨fun _ => shows_plain rfl, MS_thread_SetTime_shows, trivial⟩, trivial⟩

end shows

/-! ### The change of states -/

/-- A statement that may go over to another state, but not into the success of a test and not into
the radio log itself. -/
structure Plain (w w' : World) : Prop extends Aside w w' where
  MS : w'.MS = w.MS ∨ w'.MS ∈ [1, 2, 3, 4, 10]

section plain

theorem Shows.plain {w w' : World} (h : Shows w w') : Plain w w' := ⟨h.toAside, .inl h.MS⟩

theorem MS_thread_GetTime_plain : MS_thread_GetTime.All Plain :=
  MS_thread_GetTime_shows.mono fun _ _ => Shows.plain

theorem time_row_plain : time_row.All Plain := time_row_shows.mono fun _ _ => Shows.plain

theorem plain_plain {w w' : World} (h : (untouched w', w'.MS) = (untouched w, w.MS)) : Plain w w' := by
  obtain ⟨ha, hM⟩ := Prod.mk.inj h
  exact ⟨aside_plain ha, .inl hM⟩

/-- `MS = k`. -/
theorem plain_MS {k : ℕ} (hk : k ∈ [1, 2, 3, 4, 10]) (w : World) : Plain w { w with MS := k } :=
  ⟨aside_plain rfl, .inr hk⟩

theorem MS_thread_SelectMode_plain : MS_thread_SelectMode.All Plain := by
  have hup : redraw.All Plain := fun _ => plain_plain rfl
  exact ⟨⟨fun _ => plain_plain rfl, trivial⟩,
    ⟨⟨⟨⟨fun _ => plain_plain rfl, hup, trivial⟩, trivial⟩,
      ⟨⟨fun _ => plain_plain rfl, fun _ => plain_plain rfl, hup, trivial⟩, trivial⟩,
      ⟨⟨plain_MS (by decide), fun _ => plain_plain rfl, ⟨MS_thread_GetTime_plain, trivial⟩,
        ⟨plain_MS (by decide), trivial⟩, trivial⟩, trivial⟩, trivial⟩, trivial⟩, trivial⟩

theorem redraw_plain : redraw.All Plain := fun _ => plain_plain rfl

/-- The cursor behind a digit. -/
theorem next_digit_plain :
    (Prog.ite (fun w => w.choose = 1)
      (.cond (fun w => 8 ≤ w.choose_number % 10 ∧ w.choose_number < 10)
        (.act fun w => { w with choose_number := 0 }))
      (.cond (fun w => 6 ≤ w.choose_number % 10)
        (.act fun w => { w with choose_number := w.choose_number / 10 * 10 }))).All Plain :=
  ⟨⟨fun _ => plain_plain rfl, trivial⟩, ⟨fun _ => plain_plain rfl, trivial⟩⟩

theorem up_key_plain : up_key.All Plain :=
  ⟨⟨fun _ => plain_plain rfl, trivial⟩, ⟨fun _ => plain_plain rfl, fun _ => plain_plain rfl⟩, redraw_plain,
    trivial⟩

theorem down_key_plain : down_key.All Plain :=
  ⟨⟨fun _ => plain_plain rfl, trivial⟩, fun _ => plain_plain rfl, fun _ => plain_plain rfl, redraw_plain,
    trivial⟩

theorem left_key_plain : left_key.All Plain :=
  ⟨⟨fun _ => plain_plain rfl, fun _ => plain_plain rfl, fun _ => plain_plain rfl⟩, redraw_plain, trivial⟩

theorem right_key_plain : right_key.All Plain :=
  ⟨fun _ => plain_plain rfl, ⟨fun _ => plain_plain rfl, fun _ => plain_plain rfl⟩, redraw_plain, trivial⟩

theorem return_key_plain : return_key.All Plain :=
  ⟨⟨fun _ => plain_plain rfl, redraw_plain, trivial⟩,
    ⟨fun _ => plain_plain rfl, redraw_plain, fun _ => plain_plain rfl, trivial⟩,
    plain_MS (by decide), fun _ => plain_plain rfl, trivial⟩

theorem start_button_plain : start_button.All Plain :=
  ⟨⟨fun _ => plain_plain rfl, ⟨plain_MS (by decide), trivial⟩, trivial⟩, trivial⟩

theorem show_settings_plain : show_settings.All Plain :=
  ⟨plain_MS (by decide), fun _ => plain_plain rfl, MS_thread_GetTime_plain, trivial⟩

theorem MS_thread_ERROR_plain : MS_thread_ERROR.All Plain :=
  ⟨⟨fun _ => plain_plain rfl, trivial⟩, fun _ => plain_plain rfl, ⟨fun _ => plain_plain rfl, trivial⟩,
    ⟨show_settings_plain, trivial⟩, trivial⟩

end plain

/-! ### The next serial -/

theorem increment_all {R : World → World → Prop} (hn : ∀ len w, R w (next_number len w))
    (hs : ∀ len i w, R w (store_digit len i w)) (len : ℕ) : (increment len).All R := by
  have hlist : ∀ l : List ℕ, (block (l.map fun i => Prog.act (store_digit len i))).All R := by
    intro l
    induction l with
    | nil => trivial
    | cons i l ih => exact ⟨hs len i, ih⟩
  exact ⟨hn len, hlist _, trivial⟩

/-! ### The test up to its record -/

/-- A statement of the test before its verdict: it talks to the meter and the detector. -/
structure Idles (w w' : World) : Prop extends Looks w w' where
  MS_error : w'.MS_error = w.MS_error

/-- The codes with which a test fails. -/
def IsError (error : UInt8) : Prop := 1 ≤ error ∧ error ≤ 20

instance (error : UInt8) : Decidable (IsError error) := inferInstanceAs (Decidable (_ ∧ _))

/-- The programs of the tests are decision trees: between idle statements they branch, and every
leaf is a success or a failure with its code. -/
inductive Test : Prog World → Prop
  | pass : Test pass
  | fail {error : UInt8} : IsError error → Test (fail error)
  | ite {c : World → Bool} {p q : Prog World} : Test p → Test q → Test (.ite c p q)
  | seq {p q : Prog World} : p.All Idles → p.Straight → Test q → Test (.seq p q)
  | last {p : Prog World} : Test p → Test (.seq p .skip)

section test
variable {rest : Prog World}

theorem idles_plain {w w' : World} (h : (seen_only w', w'.MS_error) = (seen_only w, w.MS_error)) :
    Idles w w' := by
  obtain ⟨hl, he⟩ := Prod.mk.inj h
  exact ⟨looks_plain hl, he⟩

theorem Test.act {f : World → World} (hf : ∀ w, Idles w (f w)) {q : Prog World} (hq : Test q) :
    Test (.seq (.act f) q) := .seq hf trivial hq

theorem exchange_test (c : World → Command) {error : UInt8} (he : IsError error)
    (h : Test rest) : Test (exchange c error rest) :=
  .act (fun w => ⟨⟨issue_aside c w, rfl, rfl⟩, rfl⟩)
    (.act (fun _ => by exact idles_plain rfl) (.last (.ite (.fail he) h)))

theorem refuse_test (c : World → Bool) {error : UInt8} (he : IsError error) (h : Test rest) :
    Test (refuse c error rest) := .ite (.fail he) h

theorem answer_test (h : Test rest) : Test (block [.act World.get_UartData, rest]) :=
  .act (fun _ => by exact idles_plain rfl) (.last h)

theorem IR_off_test (h : Test rest) : Test (block [IR_off, rest]) :=
  .act (fun _ => by exact idles_plain rfl) (.last h)

/-- The detector is read, and it is dark or not. -/
theorem read_IR_test {p q : Prog World} (hp : Test p) (hq : Test q) :
    Test (read_IR (.ite IR_dark p q)) :=
  .act (fun _ => by exact idles_plain rfl) (.act (fun _ => by exact idles_plain rfl) (.last (.ite hp hq)))

theorem valve_open_first_test (h : Test rest) : Test (valve_open_first rest) := by
  have hthird := read_IR_test (IR_off_test (.fail (by decide : IsError VALVE_ERROR))) h
  have hsecond := read_IR_test (IR_off_test
    (exchange_test (fun _ => .open_valve) (by decide : IsError WRITE_ERROR2) hthird)) h
  exact read_IR_test (IR_off_test (exchange_test _ (by decide) hsecond)) h

theorem wait_dark_idles : ∀ n, (wait_dark n).All Idles ∧ (wait_dark n).Straight
  | 0 => ⟨trivial, trivial⟩
  | n + 1 => ⟨⟨fun _ => idles_plain rfl, ⟨trivial, (wait_dark_idles n).1⟩, trivial⟩,
      trivial, ⟨trivial, (wait_dark_idles n).2⟩, trivial⟩

theorem valve_closed_test (h : Test rest) : Test (valve_closed rest) :=
  .act (fun _ => by exact idles_plain rfl) <| .act (fun _ => by exact idles_plain rfl) <|
    .seq (wait_dark_idles 4).1 (wait_dark_idles 4).2 <| .act (fun _ => by exact idles_plain rfl) <|
    .last (.ite (IR_off_test (.fail (by decide))) (IR_off_test h))

theorem valve_open_last_test : Test valve_open_last := by
  have hsecond := read_IR_test (IR_off_test (.fail (by decide : IsError VALVE_ERROR1))) .pass
  exact read_IR_test (IR_off_test (exchange_test _ (by decide) hsecond)) .pass

theorem check_status_test (h : Test rest) : Test (check_status rest) := by
  unfold check_status
  iterate 10 refine refuse_test _ (by decide) ?_
  exact h

theorem MS_thread_test0_test : Test MS_thread_test0 := by
  unfold MS_thread_test0
  iterate 4 refine exchange_test _ (by decide) ?_
  refine answer_test (refuse_test _ (by decide) (exchange_test _ (by decide) ?_))
  refine answer_test (refuse_test _ (by decide) (exchange_test _ (by decide) ?_))
  refine answer_test (refuse_test _ (by decide) (refuse_test _ (by decide) ?_))
  exact exchange_test _ (by decide) .pass

theorem test1_test (len : ℕ) : Test (test1 len) := by
  unfold test1
  iterate 3 refine exchange_test _ (by decide) ?_
  refine valve_open_first_test (valve_closed_test (exchange_test _ (by decide) ?_))
  refine answer_test (refuse_test _ (by decide) (exchange_test _ (by decide) ?_))
  refine answer_test (refuse_test _ (by decide) (exchange_test _ (by decide) ?_))
  refine answer_test (check_status_test (exchange_test _ (by decide) ?_))
  exact exchange_test _ (by decide) valve_open_last_test

theorem MS_thread_test1_test : Test MS_thread_test1 := .ite (test1_test 8) (test1_test 6)

end test

/-- A relation that all statements of the two tests obey. -/
structure TestSteps (R : World → World → Prop) : Prop where
  issue : ∀ (c : World → Command) w, R w (w.issue (c w))
  get_uart_flag : ∀ w, R w w.get_uart_flag
  get_UartData : ∀ w, R w w.get_UartData
  rt_pin_read : ∀ pin w, R w (w.rt_pin_read pin)
  write_IR_DET : ∀ level w, R w (w.write_IR_DET level)
  verdict : ∀ k ∈ [4, 5], ∀ w, R w { w with MS := k }
  MS_error : ∀ error w, R w { w with MS_error := error }
  thread_time : ∀ w, R w { w with thread_time := 0 }

namespace TestSteps
variable {R : World → World → Prop} (h : TestSteps R) {rest : Prog World}
include h

theorem fail (error : UInt8) : (fail error).All R :=
  ⟨h.verdict 4 (by decide), h.MS_error error, trivial⟩

theorem pass : pass.All R := ⟨h.verdict 5 (by decide), h.thread_time, trivial⟩

theorem exchange (c : World → Command) (error : UInt8) (hr : rest.All R) :
    (exchange c error rest).All R := ⟨h.issue c, h.get_uart_flag, ⟨h.fail error, hr⟩, trivial⟩

theorem refuse (c : World → Bool) (error : UInt8) (hr : rest.All R) :
    (refuse c error rest).All R := ⟨h.fail error, hr⟩

theorem answer (hr : rest.All R) : (block [.act World.get_UartData, rest]).All R :=
  ⟨h.get_UartData, hr, trivial⟩

theorem IR_off (hr : rest.All R) : (block [IR_off, rest]).All R := ⟨h.write_IR_DET 0, hr, trivial⟩

theorem read_IR (hr : rest.All R) : (read_IR rest).All R :=
  ⟨h.write_IR_DET 1, h.rt_pin_read IR_LED, hr, trivial⟩

theorem valve_open_first (hr : rest.All R) : (valve_open_first rest).All R := by
  have hthird : (MeterTester.read_IR (.ite IR_dark (block [MeterTester.IR_off,
      MeterTester.fail VALVE_ERROR]) rest)).All R := h.read_IR ⟨h.IR_off (h.fail _), hr⟩
  exact h.read_IR ⟨h.IR_off (h.exchange _ _ (h.read_IR
    ⟨h.IR_off (h.exchange _ _ hthird), hr⟩)), hr⟩

theorem wait_dark : ∀ n, (wait_dark n).All R
  | 0 => trivial
  | n + 1 => ⟨h.rt_pin_read IR_LED, ⟨trivial, wait_dark n⟩, trivial⟩

theorem valve_closed (hr : rest.All R) : (valve_closed rest).All R :=
  ⟨h.write_IR_DET 0, h.write_IR_DET 1, h.wait_dark 4, h.rt_pin_read IR_LED,
    ⟨h.IR_off (h.fail _), h.IR_off hr⟩, trivial⟩

theorem valve_open_last : valve_open_last.All R :=
  h.read_IR ⟨h.IR_off (h.exchange _ _ (h.read_IR ⟨h.IR_off (h.fail _), h.pass⟩)), h.pass⟩

theorem test0 : MS_thread_test0.All R := by
  unfold MS_thread_test0
  iterate 4 refine h.exchange _ _ ?_
  refine h.answer (h.refuse _ _ (h.exchange _ _ ?_))
  refine h.answer (h.refuse _ _ (h.exchange _ _ ?_))
  refine h.answer (h.refuse _ _ (h.refuse _ _ ?_))
  exact h.exchange _ _ h.pass

theorem test1 : MS_thread_test1.All R := by
  have hlen : ∀ len, (MeterTester.test1 len).All R := by
    intro len
    unfold MeterTester.test1 check_status
    iterate 3 refine h.exchange _ _ ?_
    refine h.valve_open_first (h.valve_closed (h.exchange _ _ ?_))
    refine h.answer (h.refuse _ _ (h.exchange _ _ ?_))
    refine h.answer (h.refuse _ _ (h.exchange _ _ ?_))
    apply h.answer
    iterate 10 refine h.refuse _ _ ?_
    exact h.exchange _ _ (h.exchange _ _ h.valve_open_last)
  exact ⟨hlen 8, hlen 6⟩

end TestSteps

/-- Any statement of the test: the verdict goes to `MS` and `MS_error`. -/
structure Testing (w w' : World) : Prop extends Aside w w' where
  choose : w'.choose = w.choose
  MS : w'.MS = w.MS ∨ w'.MS = 4 ∨ w'.MS = 5

theorem Looks.testing {w w' : World} (h : Looks w w') : Testing w w' :=
  ⟨h.toAside, h.choose, .inl h.MS⟩

theorem Test.testing {p : Prog World} (h : Test p) : p.All Testing := by
  induction h with
  | pass =>
      exact ⟨fun _ => ⟨aside_plain rfl, rfl, .inr (.inr rfl)⟩, fun _ => Looks.testing (looks_plain rfl),
        trivial⟩
  | fail _ =>
      exact ⟨fun _ => ⟨aside_plain rfl, rfl, .inr (.inl rfl)⟩, fun _ => Looks.testing (looks_plain rfl),
        trivial⟩
  | ite _ _ ihp ihq => exact ⟨ihp, ihq⟩
  | seq hp _ _ ihq => exact ⟨hp.mono fun _ _ h => h.toLooks.testing, ihq⟩
  | last _ ih => exact ⟨ih, trivial⟩

/-! ### The radio log -/

/-- A statement of the radio log: besides the minor events it may append a record. -/
structure Browses (w w' : World) : Prop where
  choose : w'.choose = w.choose ∨ w'.choose = 0
  MS : w'.MS = w.MS ∨ w'.MS = 1 ∨ w'.MS = 11
  zf_list6 : w'.zf_list6 = w.zf_list6
  MSID : w'.MSID = w.MSID
  MS_MSID : w'.dfs.fs.content .MS_MSID = w.dfs.fs.content .MS_MSID
  openOk : w'.dfs.fs.openOk = w.dfs.fs.openOk
  log : w'.log = w.log ∨
    ∃ e : Event, (e.IsMinor ∨ ∃ t bs, e = .set_ax_record t bs) ∧ w'.log = e :: w.log

section browses

theorem Aside.browses {w w' : World} (h : Aside w w')
    (hc : w'.choose = w.choose ∨ w'.choose = 0) (hM : w'.MS = w.MS ∨ w'.MS = 1 ∨ w'.MS = 11) :
    Browses w w' :=
  ⟨hc, hM, h.zf_list6, h.MSID, h.MS_MSID, h.openOk,
    h.log.imp_right fun ⟨e, he, hl⟩ => ⟨e, .inl he, hl⟩⟩

theorem Looks.browses {w w' : World} (h : Looks w w') : Browses w w' :=
  h.toAside.browses (.inl h.choose) (.inl h.MS)

theorem browses_plain {w w' : World} (h : seen_only w' = seen_only w) : Browses w w' :=
  (looks_plain h).browses

theorem set_ax_record_browses (w : World) : Browses w w.set_ax_record := by
  refine ⟨.inl rfl, .inl rfl, rfl, rfl, Dfs.set_ax_record_MS_MSID _ _ _ _ _ _ _,
    Dfs.set_ax_record_openOk _ _ _ _ _ _ _, ?_⟩
  simp only [World.set_ax_record, call_file]
  split_ifs
  · exact .inr ⟨.set_ax_record _ _, .inr ⟨_, _, rfl⟩, rfl⟩
  · exact .inl rfl

theorem set_MS_browses (k : ℕ) (hk : k = 1 ∨ k = 11) (w : World) :
    Browses w { w with MS := k } := Aside.browses (aside_plain rfl) (.inl rfl) (.inr hk)

theorem MS_thread_ax_start_browses : MS_thread_ax_start.All Browses :=
  ⟨fun _ => browses_plain rfl, fun _ => browses_plain rfl, fun _ => browses_plain rfl,
    ⟨(show_ax_record_looks _).mono fun _ _ h => h.browses, trivial⟩,
    fun _ => browses_plain rfl, set_MS_browses 11 (.inr rfl), trivial⟩

theorem MS_thread_ax_refresh_browses : MS_thread_ax_refresh.All Browses :=
  ⟨fun _ => browses_plain rfl, set_ax_record_browses,
    fun w => (set_Record_txt_aside (fun w => w.dfs.get_recordled_data)
      (fun w => (w.dfs.get_ax5045len_data + 1) % 0x10000) w).browses (.inl rfl) (.inl rfl),
    fun _ => browses_plain rfl, ⟨fun _ => browses_plain rfl, trivial⟩,
    fun _ => browses_plain rfl, fun _ => browses_plain rfl,
    fun _ => browses_plain rfl, set_MS_browses 11 (.inr rfl), trivial⟩

theorem ax_return_key_browses : ax_return_key.All Browses :=
  ⟨fun _ => browses_plain rfl, set_MS_browses 1 (.inl rfl),
    fun _ => Aside.browses (aside_plain rfl) (.inr rfl) (.inl rfl), trivial⟩

theorem MS_thread_ax_browses : MS_thread_ax.All Browses := by
  have hlooks : ∀ {p : Prog World}, p.All Looks → p.All Browses :=
    fun h => h.mono fun _ _ h => h.browses
  exact ⟨hlooks blink_date_looks,
    ⟨⟨⟨hlooks ax_digit_key_looks, trivial⟩, ⟨hlooks ax_back_key_looks, trivial⟩,
      ⟨hlooks ax_forward_key_looks, trivial⟩, ⟨hlooks ax_ok_key_looks, trivial⟩,
      ⟨ax_return_key_browses, trivial⟩, trivial⟩, trivial⟩, trivial⟩

end browses

end MeterTester
