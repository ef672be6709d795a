import MeterTester.Modes

/-! # Only confirmed settings are tested: `MS_thread_SettingMs`

The editor of the settings starts the test when the cursor stands on `30`, which stands for
confirmed settings: OK writes the digits to the file, sets the clock and moves the cursor there.
LEFT and RIGHT move it on to `35` and `31` and back, but from below `30` no key other than OK may
reach it.

`confirmed_tested` proves this for every run in which no digit is stored outside its array
(`Strays`).  With such stores a test can start with an edited digit that is not in the file and a
pending edit of the time (`not_confirmed_digits`): behind the rows of the long serials' mode the digit
keys count the cursor up to `30` themselves.

The runs here go on behind a store outside an array (`Prog.unchecked`).  C does not say what such a
store changes; here it changes no variable. -/

namespace MeterTester

open Interleave Interleave.Prog World

/-! ### Runs that go on -/

/-- A turn of the main loop, or a packet; the turn goes on behind a store outside an array. -/
def Task.go : Task → World → Option World
  | .main, w => main_turn.unchecked.exec 0 w
  | .radio rssi rx_buffer rx_len, w => some (w.rf4068_rx_callback rssi rx_buffer rx_len)

/-- The state before task `n` of a schedule. -/
def state_of (fs : Fs) (devices : ℕ → Device) (tasks : ℕ → Task) : ℕ → Option World
  | 0 => some (booted fs devices)
  | n + 1 => (state_of fs devices tasks n).bind (tasks n).go

/-- The turn is a settings turn with a digit key, and the cell under the cursor is in no array. -/
def Strays (w : World) : Prop :=
  w.MS = 2 ∧ w.now.button < 10 ∧ w.choose_number < 30 ∧
    w.cell (digit_cell w.choose w.choose_number) = none

theorem main_turn_go (n : ℕ) (w : World) : main_turn.unchecked.exec n w =
    ((MS_function w.MS).unchecked.exec n w.entered).map ticked := by
  have hturn : main_turn.unchecked.exec n w =
      (MS_thread.unchecked.exec n w.get_button_number).map ticked := by
    simp only [main_turn, block, unchecked, exec_seq, exec_skip, exec_act, Option.bind_some]
    cases MS_thread.unchecked.exec n w.get_button_number <;> rfl
  have hthread : MS_thread.unchecked.exec n w.get_button_number =
      (MS_function w.MS).unchecked.exec n w.entered := by
    have hswitch := exec_unchecked_switch World.selector MS_functions n w.entered
    simp only [MS_thread, block, unchecked, exec_seq, exec_skip, exec_act, Option.bind_some]
    rw [show select w.get_button_number = w.entered from rfl, hswitch]
    exact Option.bind_fun_some _
  rw [hturn, hthread]

/-! ### The settings -/

/-- What the confirmation of the settings is about. -/
structure Settings where
  MS : ℕ
  choose_number : ℕ
  setting_time : ℕ
  zf_list6 : ℕ → Vector UInt8 10
  fs : Fs

def World.settings (w : World) : Settings :=
  ⟨w.MS, w.choose_number, w.setting_time, w.zf_list6, w.dfs.fs⟩

/-- The places the cursor comes to while the settings are edited. -/
def Place (n : ℕ) : Prop := n ≤ 7 ∨ (10 ≤ n ∧ n ≤ 16) ∨ (20 ≤ n ∧ n ≤ 26)

namespace Settings
variable (s : Settings)

/-- The bytes of `/MS_MSID.txt`. -/
def file : List UInt8 := s.fs.content .MS_MSID

/-- The twenty digits in the lists. -/
def digits : List UInt8 := Dfs.MSID_bytes (s.zf_list6 0) (s.zf_list6 1) (s.zf_list6 2)

/-- The digits are those of the file, and no edit of the time is pending. -/
structure Confirmed : Prop where
  digits : s.file.take 20 = s.digits
  setting_time : s.setting_time = 0

/-- The file works and has its digits. -/
structure Filed : Prop where
  works : s.fs.Works
  long : 20 ≤ s.file.length

/-- In the editor. -/
structure Editing : Prop extends s.Filed where
  MS : s.MS = 2
  pending : s.setting_time ≤ 1
  cursor : Place s.choose_number ∨
    (30 ≤ s.choose_number ∧ s.choose_number ≤ 35 ∧ s.Confirmed)

/-- The editor has been left in this turn. -/
structure Leaving : Prop extends s.Filed where
  MS : s.MS = 1
  pending : s.setting_time = 0
  cursor : s.choose_number = 30 → s.file.take 20 = s.digits

/-- In the test, or behind it. -/
structure Trying : Prop extends s.Filed where
  MS : s.MS ∈ [3, 4, 5]
  confirmed : s.Confirmed

/-- In the choice of the mode or the radio log. -/
structure Idle : Prop extends s.Filed where
  MS : s.MS ∈ [1, 10, 11, 12]
  pending : s.setting_time = 0

/-- Before the first turn. -/
structure Blank : Prop where
  works : s.fs.Works
  MS : s.MS = 0
  pending : s.setting_time = 0

/-- Between two turns. -/
def Between : Prop := s.Blank ∨ s.Editing ∨ s.Trying ∨ s.Idle

variable {s}

theorem Filed.same {s' : Settings} (h : s.Filed) (hf : s'.fs = s.fs := by exact rfl) : s'.Filed := by
  refine ⟨by rw [hf]; exact h.works, ?_⟩
  rw [file, hf]
  exact h.long

end Settings

/-! ### The keys of the editor -/

section cursor
variable {choose n : ℕ}

/-- The places behind an arrow: rows `0` to `2`, or those beside `30`. -/
def Beside (n m : ℕ) : Prop := Place m ∨ (30 ≤ n ∧ 30 ≤ m ∧ m ≤ 35)

variable (h : Place n ∨ (30 ≤ n ∧ n ≤ 35))
include h

theorem cursor_up_beside : Beside n (cursor_up n) := by
  unfold Place at h
  unfold Beside Place cursor_up
  dsimp only
  split_ifs <;> omega

theorem cursor_down_beside : Beside n (cursor_down n) := by
  unfold Place at h
  unfold Beside Place cursor_down
  split_ifs <;> omega

theorem cursor_left_beside : Beside n (cursor_left choose n) := by
  unfold Place at h
  unfold Beside Place cursor_left
  split_ifs <;> omega

theorem cursor_right_beside : Beside n (cursor_right choose n) := by
  unfold Place at h
  unfold Beside Place cursor_right
  dsimp only
  split_ifs <;> omega

end cursor

/-- A digit key keeps the cursor away from `30`, unless its digit is stored outside the arrays. -/
theorem cursor_digit_place {w : World} (h : Place w.choose_number)
    (hcell : w.cell (digit_cell w.choose w.choose_number) ≠ none) :
    Place (cursor_digit w.choose w.choose_number) := by
  have h₁₆ : w.choose_number ≠ 16 := fun he => hcell (by rw [he]; rfl)
  have h₂₆ : w.choose_number ≠ 26 := fun he => hcell (by rw [he]; rfl)
  unfold Place at h
  unfold Place cursor_digit
  dsimp only
  split_ifs <;> omega

section keys
variable {n : ℕ}

theorem Settings.Editing.place {s : Settings} (h : s.Editing) :
    Place s.choose_number ∨ (30 ≤ s.choose_number ∧ s.choose_number ≤ 35) :=
  h.cursor.imp_right fun h => ⟨h.1, h.2.1⟩

/-- A new place of the cursor. -/
theorem editing_move {w : World} (h : w.settings.Editing) {m : ℕ}
    (hm : Beside w.choose_number m) : (w.move m).settings.Editing := by
  refine ⟨h.toFiled.same, h.MS, h.pending, hm.imp_right fun ⟨hn, hm⟩ => ⟨hm.1, hm.2, ?_⟩⟩
  rcases h.cursor with hp | hp
  · have hp : Place w.choose_number := hp
    unfold Place at hp
    omega
  · exact ⟨hp.2.2.digits, hp.2.2.setting_time⟩

theorem SetTime_settings : MS_thread_SetTime.All fun w w' => w'.settings = w.settings :=
  ⟨fun _ => rfl, fun _ => rfl, fun _ => rfl, ⟨fun _ => rfl, trivial⟩, ⟨fun _ => rfl, trivial⟩,
    ⟨fun _ => rfl, trivial⟩, fun _ => rfl, trivial⟩

theorem GetTime_settings : MS_thread_GetTime.All fun w w' => w'.settings = w.settings :=
  ⟨fun _ => rfl, fun _ => rfl, trivial⟩

/-- Statements that leave the settings alone keep every assertion about them. -/
theorem keeps_settings {C : Settings → Prop} {p : Prog World}
    (h : p.All fun w w' => w'.settings = w.settings) : p.Keeps fun w => C w.settings :=
  h.keeps fun w w' he hw => by rw [he]; exact hw

theorem digit_key_editing : Ends n
    (fun w => w.settings.Editing ∧ w.choose_number < 30 ∧
      w.cell (digit_cell w.choose w.choose_number) ≠ none)
    digit_key.unchecked fun w => w.settings.Editing := by
  have hwrite : write_digit.unchecked.Keeps fun w =>
      (w.settings.Filed ∧ w.settings.MS = 2 ∧ w.settings.setting_time ≤ 1) ∧
        Place (cursor_digit w.choose w.choose_number) :=
    ⟨⟨trivial, fun _ h => ⟨⟨h.1.1.same, h.1.2⟩, h.2⟩, trivial⟩,
      ⟨trivial, fun _ h => ⟨⟨h.1.1.same, h.1.2⟩, h.2⟩, trivial⟩,
      ⟨trivial, fun _ h => ⟨⟨h.1.1.same, h.1.2⟩, h.2⟩, trivial⟩, trivial⟩
  refine .seq (Ends.pre (.of_keeps hwrite) fun w ⟨h, hlt, hcell⟩ => ?_) fun w w' h he => ?_
  · refine ⟨⟨h.toFiled, h.MS, h.pending⟩, cursor_digit_place ?_ hcell⟩
    rcases h.cursor with hp | hp
    · exact hp
    · exact absurd hp.1 (by show ¬ 30 ≤ w.choose_number; omega)
  · obtain rfl := Option.some.inj ((behind_digit_exec n w).symm.trans he)
    exact ⟨h.1.1.same, h.1.2.1, h.1.2.2, .inl h.2⟩

theorem arrow_editing {p : Prog World} {place : World → ℕ}
    (hexec : ∀ w, p.exec n w = some (w.move (place w)))
    (hplace : ∀ w, Place w.choose_number ∨ (30 ≤ w.choose_number ∧ w.choose_number ≤ 35) →
      Beside w.choose_number (place w)) :
    Ends n (fun w => w.settings.Editing) p fun w => w.settings.Editing := by
  intro w w' h he
  obtain rfl := Option.some.inj ((hexec w).symm.trans he)
  exact editing_move h (hplace w h.place)

theorem time_row_editing :
    Ends n (fun w => w.settings.Editing) time_row fun w => w.settings.Editing := by
  refine .ite (.cond (.act fun w h => ?_) fun _ h _ => h.1) ?_
  · have hrow : 20 ≤ w.choose_number ∧ w.choose_number ≤ 25 := by simpa using h.1.2
    refine ⟨h.1.1.toFiled.same, h.1.1.MS, le_refl 1, .inl (.inr (.inr ⟨hrow.1, ?_⟩))⟩
    show w.choose_number ≤ 26
    omega
  · refine .cond (.block_cons (R := fun w => w.settings.Editing) (.act fun w h => ?_) <|
      .block_last (.of_keeps (keeps_settings SetTime_settings))) fun _ h _ => h.1
    have h := h.1.1
    exact ⟨h.toFiled.same, h.MS, Nat.zero_le 1, h.cursor.imp_right fun hc => ⟨hc.1, hc.2.1, hc.2.2.digits, rfl⟩⟩

/-- In the editor, or just behind it. -/
def Settings.Edited (s : Settings) : Prop := s.Editing ∨ s.Leaving

theorem return_key_edited :
    Ends n (fun w => w.settings.Editing) return_key fun w => w.settings.Edited := by
  have hfirst : ∀ w : World, w.settings.Filed → w.settings.MS = 2 → w.settings.setting_time ≤ 1 →
      w.settings.choose_number = 0 → w.settings.Edited := fun w hf hM hp hn =>
    .inl ⟨hf, hM, hp, .inl (.inl (by omega))⟩
  have hredraw : ∀ C : Settings → Prop, redraw.Keeps fun w => C w.settings := fun C _ h => h
  refine .ite (.block_cons (R := fun w => w.settings.Edited) (.act fun w h => ?_)
    (.block_last (.of_keeps (hredraw _)))) <| .ite (.block_cons (R := fun w => w.settings.Edited)
    (.act fun w h => ?_) (.block_cons (.of_keeps (hredraw _)) (.block_last (.act fun w h => ?_)))) <|
    .block_cons (R := fun w => w.settings.Leaving) (.act fun w h => ?_) <|
    .block_last (.act fun w h => .inr h)
  · exact hfirst _ h.1.toFiled.same h.1.MS h.1.pending rfl
  · exact hfirst _ h.1.1.toFiled.same h.1.1.MS h.1.1.pending rfl
  · rcases h with h | h
    · exact .inl ⟨h.toFiled.same, h.MS, Nat.zero_le 1,
        h.cursor.imp_right fun hc => ⟨hc.1, hc.2.1, hc.2.2.digits, rfl⟩⟩
    · exact .inr ⟨h.toFiled.same, h.MS, rfl, h.cursor⟩
  · obtain ⟨⟨h, hne⟩, hst⟩ := h
    have hne : w.choose_number ≠ 30 := by simpa using hne
    have hst : w.setting_time ≠ 1 := by simpa using hst
    have hp : w.setting_time ≤ 1 := h.pending
    exact ⟨h.toFiled.same, rfl, show w.setting_time = 0 by omega, fun he => absurd he hne⟩

/-- OK writes the digits, in the editor or just behind it. -/
structure Settings.Written (s : Settings) : Prop extends s.Filed where
  digits : s.file.take 20 = s.digits
  MS : s.MS = 2 ∨ (s.MS = 1 ∧ s.setting_time = 0)
  pending : s.setting_time ≤ 1

/-- `set_MSID` makes the digits those of the file. -/
theorem set_MSID_digits {w : World} (h : w.settings.Filed) : w.set_MSID.settings.Filed ∧
    w.set_MSID.settings.file.take 20 = w.set_MSID.settings.digits := by
  have hlen : w.settings.digits.length = 20 := by
    simp [Settings.digits, Dfs.MSID_bytes, Dfs.cells]
  have hcontent : w.set_MSID.settings.file = w.settings.digits ++ w.settings.file.drop 20 :=
    set_MSID_content h.works _ _ _ (Fs.file_ne_none (by decide) h.long)
  refine ⟨⟨h.works.of_openOk (Dfs.set_MSID_openOk _ _ _ _), ?_⟩, ?_⟩
  · rw [hcontent, List.length_append]
    omega
  · rw [hcontent]
    exact List.take_left' hlen

theorem set_MSID_written {w : World} (h : w.settings.Edited) : w.set_MSID.settings.Written := by
  obtain ⟨hfiled, hdigits⟩ := set_MSID_digits (h.elim (fun h => h.toFiled) fun h => h.toFiled)
  refine ⟨hfiled, hdigits, ?_, ?_⟩
  · exact h.imp (fun h => h.MS) fun h => ⟨h.MS, h.pending⟩
  · exact h.elim (fun h => h.pending) fun h => le_of_eq_of_le h.pending (Nat.zero_le 1)

theorem ok_key_edited :
    Ends n (fun w => w.settings.Edited) ok_key fun w => w.settings.Edited := by
  refine .cond (.block_cons (R := fun w => w.settings.Written)
    (.act fun w h => set_MSID_written h.1) <|
    .block_cons (R := fun w => w.settings.Written ∧ w.settings.setting_time = 0) ?_ <|
    .block_last (.act fun w h => ?_)) fun _ h _ => h
  · refine .cond (.block_cons (R := fun w => w.settings.Written ∧ w.settings.setting_time = 0)
      (.act fun w h => ?_) (.block_last (.of_keeps
        (keeps_settings (C := fun s => s.Written ∧ s.setting_time = 0) SetTime_settings)))) fun w h hc => ?_
    · exact ⟨⟨h.1.toFiled.same, h.1.digits, h.1.MS.imp_right fun hM => ⟨hM.1, rfl⟩, Nat.zero_le 1⟩, rfl⟩
    · have hne : w.setting_time ≠ 1 := by simpa using hc
      have hle : w.setting_time ≤ 1 := h.pending
      exact ⟨h, show w.setting_time = 0 by omega⟩
  · obtain ⟨h, hp⟩ := h
    rcases h.MS with hM | hM
    · exact .inl ⟨h.toFiled.same, hM, h.pending,
        .inr ⟨le_refl 30, by show 30 ≤ 35; omega, h.digits, hp⟩⟩
    · exact .inr ⟨h.toFiled.same, hM.1, hp, fun _ => h.digits⟩

theorem settings_key_edited :
    Ends n (fun w => w.settings.Editing ∧ (w.button_number < 10 → w.choose_number < 30 →
      w.cell (digit_cell w.choose w.choose_number) ≠ none))
    settings_key.unchecked fun w => w.settings.Edited := by
  refine .cond (.pre ?_ fun _ h => h.1) fun _ h _ => .inl h.1
  refine .seq (R := fun w => w.settings.Editing) ?_ <|
    .seq (.cond_keeps (arrow_editing (up_key_exec n) fun _ => cursor_up_beside)) <|
    .seq (.cond_keeps (arrow_editing (down_key_exec n) fun _ => cursor_down_beside)) <|
    .seq (.cond_keeps (arrow_editing (left_key_exec n) fun _ => cursor_left_beside)) <|
    .seq (.cond_keeps (arrow_editing (right_key_exec n) fun _ => cursor_right_beside)) <|
    .seq (.cond_keeps time_row_editing) <|
    .seq (R := fun w => w.settings.Edited) (.cond (return_key_edited.pre fun _ h => h.1)
      fun _ h _ => .inl h) <|
    .seq (.cond_keeps ok_key_edited) .skip
  refine .cond (digit_key_editing.pre fun w h => ?_) fun _ h _ => h.1
  have hkey : w.button_number < 10 ∧ w.choose_number < 30 := by simpa using h.2
  exact ⟨h.1.1, hkey.2, h.1.2 hkey.1 hkey.2⟩

/-- The start button starts the test from confirmed settings only. -/
theorem start_button_between :
    Ends n (fun w => w.settings.Edited) start_button fun w => w.settings.Between := by
  have hrest : ∀ s : Settings, s.Edited → s.Between := fun s h => h.elim (fun h => .inr (.inl h))
    fun h => .inr (.inr (.inr ⟨h.toFiled, by rw [h.MS]; decide, h.pending⟩))
  refine .cond (.block_cons (R := fun w => w.settings.Edited ∧ w.settings.choose_number = 30)
    (.act fun w h => ⟨h.1, of_decide_eq_true h.2⟩) <|
    .block_last (.cond (.act fun w h => ?_) fun w h _ => hrest _ h.1)) fun w h _ => hrest _ h
  obtain ⟨⟨h, h₃₀⟩, -⟩ := h
  refine .inr (.inr (.inl ?_))
  rcases h with h | h
  · refine ⟨h.toFiled.same, show 3 ∈ [3, 4, 5] by decide, ?_⟩
    rcases h.cursor with hp | hp
    · rw [h₃₀] at hp
      exact absurd hp (by unfold Place; omega)
    · exact ⟨hp.2.2.digits, hp.2.2.setting_time⟩
  · exact ⟨h.toFiled.same, show 3 ∈ [3, 4, 5] by decide, h.cursor h₃₀, h.pending⟩

/-- Whether a cell is in an array does not depend on the state. -/
theorem cell_eq_none_iff (w w' : World) (c : Cell) : w.cell c = none ↔ w'.cell c = none := by
  cases c <;> simp [World.cell]

theorem blink_settings_settings : blink_settings.All fun w w' => w'.settings = w.settings :=
  ⟨⟨fun _ => rfl, ⟨GetTime_settings, trivial⟩, trivial⟩, trivial⟩

/-- **The editor.** -/
theorem SettingMs_between :
    Ends n (fun w => w.settings.Editing ∧ (w.button_number < 10 → w.choose_number < 30 →
      w.cell (digit_cell w.choose w.choose_number) ≠ none))
    MS_thread_SettingMs.unchecked fun w => w.settings.Between := by
  refine .seq (.of_keeps (Keeps.unchecked ?_)) <| .seq settings_key_edited <|
    .seq start_button_between .skip
  refine (blink_settings_shows.and blink_settings_settings).keeps fun w w' ⟨hs, he⟩ h => ?_
  rw [he, hs.button_number, hs.choose, hs.choose_number]
  exact ⟨h.1, fun hb hn hc => h.2 hb hn ((cell_eq_none_iff w w' _).mpr hc)⟩

end keys

/-! ### The other states -/

section states
variable {n : ℕ}

/-- The file system has changed, but neither the file of the digits nor whether files open. -/
theorem Settings.Filed.other {s s' : Settings} (h : s.Filed) (hf : s'.file = s.file)
    (ho : s'.fs.openOk = s.fs.openOk) : s'.Filed :=
  ⟨h.works.of_openOk ho, by rw [hf]; exact h.long⟩

theorem init_between :
    Ends n (fun w => w.settings.Blank) MS_thread_init.unchecked fun w => w.settings.Between := by
  refine .seq (R := fun w => w.settings.fs.Works ∧ w.settings.MS = 1 ∧ w.settings.setting_time = 0)
    (.act fun w h => ⟨h.works, rfl, h.pending⟩) <|
    .seq (R := fun w => w.settings.fs.Works ∧ w.settings.MS = 1 ∧ w.settings.setting_time = 0)
      (.act fun _ h => h) <|
    .seq (R := fun w => w.settings.Idle) (.act fun w h => ?_) <|
    .seq (R := fun w => w.settings.Between) (.act fun w h => ?_) .skip
  · obtain ⟨-, -, hlong⟩ := get_MSID_works h.1 w.MSID
    refine ⟨⟨h.1.of_openOk (Dfs.get_MSID_openOk _ _), hlong⟩, ?_, h.2.2⟩
    rw [show w.get_MSID.settings.MS = w.settings.MS from rfl, h.2.1]
    decide
  · exact .inr (.inr (.inr ⟨h.toFiled.same, h.MS, h.pending⟩))

/-- `MS` has its value, and no edit is pending. -/
structure Settings.Quiet (k : ℕ) (s : Settings) : Prop extends s.Filed where
  MS : s.MS = k
  pending : s.setting_time = 0

theorem Settings.Quiet.between {s : Settings} {k : ℕ} (h : s.Quiet k) (hk : k ∈ [1, 10]) :
    s.Between := by
  refine .inr (.inr (.inr ⟨h.toFiled, ?_, h.pending⟩))
  rw [h.MS]
  revert hk
  simp only [List.mem_cons, List.not_mem_nil, or_false]
  omega

theorem SelectMode_between :
    Ends n (fun w => w.settings.Quiet 1) MS_thread_SelectMode fun w => w.settings.Between := by
  have hkept : ∀ {p : Prog World} (C : Settings → Prop),
      p.All (fun w w' => w'.settings = w.settings) →
        Ends n (fun w => C w.settings) p fun w => C w.settings :=
    fun _ h => .of_keeps (keeps_settings h)
  refine .block_cons (hkept (Settings.Quiet 1) ⟨fun _ => rfl, trivial⟩) <| .block_last <|
    .cond (.pre (P := fun w => w.settings.Quiet 1) ?_ fun _ h => h.1)
      fun w h _ => h.between (by decide)
  refine .block_cons (hkept (Settings.Quiet 1) ⟨⟨fun _ => rfl, fun _ => rfl, trivial⟩, trivial⟩) <|
    .block_cons (hkept (Settings.Quiet 1)
      ⟨⟨fun _ => rfl, fun _ => rfl, fun _ => rfl, trivial⟩, trivial⟩) <|
    .block_last <| .cond (.pre (P := fun w => w.settings.Quiet 1) ?_ fun _ h => h.1)
      fun w h _ => h.between (by decide)
  refine .block_cons (R := fun w => w.settings.Quiet 2)
      (.act fun w h => ⟨h.toFiled.same, rfl, h.pending⟩) <|
    .block_cons (R := fun w => w.settings.Quiet 2 ∧ w.settings.choose_number = 0)
      (.act fun w h => ⟨⟨h.toFiled.same, h.MS, h.pending⟩, rfl⟩) <|
    .block_cons (hkept (p := .cond _ MS_thread_GetTime)
      (fun s => s.Quiet 2 ∧ s.choose_number = 0) ⟨GetTime_settings, trivial⟩) <|
    .block_last <| .cond (.act fun w h => ?_) fun w h _ => ?_
  · exact Settings.Quiet.between (k := 10) ⟨h.1.1.toFiled.same, rfl, h.1.1.pending⟩ (by decide)
  · obtain ⟨h, hn⟩ := h
    exact .inr (.inl ⟨h.toFiled, h.MS, by rw [h.pending]; decide, .inl (.inl (by omega))⟩)

theorem test_between : Ends n (fun w => w.settings.Trying) MS_thread_test.unchecked
    fun w => w.settings.Between := by
  have hsteps : TestSteps fun w w' => w.settings.Trying → w'.settings.Trying :=
    ⟨fun _ _ h => h, fun _ h => h, fun _ h => h, fun _ _ h => h, fun _ _ h => h,
      fun k hk w h => ⟨h.toFiled.same, (by decide : ∀ k ∈ [4, 5], k ∈ [3, 4, 5]) k hk,
        h.confirmed.digits, h.confirmed.setting_time⟩, fun _ _ h => h, fun _ h => h⟩
  have hother : ∀ f : World → World, (∀ w, (f w).settings.MS = w.settings.MS) →
      (∀ w, (f w).settings.setting_time = w.settings.setting_time) →
      (∀ w, (f w).settings.digits = w.settings.digits) →
      (∀ w, (f w).settings.file = w.settings.file) →
      (∀ w, (f w).settings.fs.openOk = w.settings.fs.openOk) →
      (Prog.act f).Keeps fun w => w.settings.Trying := by
    intro f hM hs hd hf ho w h
    refine ⟨h.toFiled.other (hf w) (ho w), by rw [hM]; exact h.MS, ?_, ?_⟩
    · rw [hf, hd]
      exact h.confirmed.digits
    · rw [hs]
      exact h.confirmed.setting_time
  refine Ends.post (R := fun w => w.settings.Trying) (.of_keeps (Keeps.unchecked ?_))
    fun w h => .inr (.inr (.inl h))
  exact ⟨fun _ h => h, ⟨hsteps.test0.keeps fun _ _ h => h, hsteps.test1.keeps fun _ _ h => h⟩,
    fun _ h => h, trivial,
    hother _ (fun _ => rfl) (fun _ => rfl) (fun _ => rfl)
      (fun _ => Dfs.set_record_MS_MSID _ _ _ _ _) fun _ => Dfs.set_record_openOk _ _ _ _ _,
    hother _ (fun _ => rfl) (fun _ => rfl) (fun _ => rfl)
      (fun _ => Dfs.set_Record_txt_MS_MSID _ _ _ _) fun _ => Dfs.set_Record_txt_openOk _ _ _ _,
    trivial⟩

theorem show_settings_editing : Ends n (fun w => w.settings.Filed ∧ w.settings.Confirmed)
    show_settings fun w => w.settings.Editing := by
  refine .block_cons (R := fun w => (w.settings.Filed ∧ w.settings.Confirmed) ∧ w.settings.MS = 2)
      (.act fun w h => ⟨⟨h.1.same, h.2.digits, h.2.setting_time⟩, rfl⟩) <|
    .block_cons (R := fun w => w.settings.Editing) (.act fun w h => ?_) <|
    .block_last (.of_keeps (keeps_settings GetTime_settings))
  obtain ⟨⟨hf, hc⟩, hM⟩ := h
  have hp : w.setting_time = 0 := hc.setting_time
  exact ⟨hf.same, hM, by show w.setting_time ≤ 1; omega,
    .inr ⟨le_refl 30, by show 30 ≤ 35; omega, hc.digits, hc.setting_time⟩⟩

theorem ERROR_between : Ends n (fun w => w.settings.Trying) MS_thread_ERROR
    fun w => w.settings.Between := by
  refine .block_cons (.of_keeps ⟨fun _ h => h, trivial⟩) <|
    .block_cons (.of_keeps (p := .act _) fun _ h => h) <|
    .block_cons (.of_keeps ⟨fun _ h => h, trivial⟩) <|
    .block_last <| .cond (Ends.post (show_settings_editing.pre fun w h =>
      ⟨h.1.toFiled, h.1.confirmed⟩) fun w h => .inr (.inl h)) fun w h _ => .inr (.inr (.inl h))

theorem pass_between : Ends n (fun w => w.settings.Trying) MS_thread_pass.unchecked
    fun w => w.settings.Between := by
  have hadd : ∀ len, (increment len).Keeps fun w =>
      w.settings.Filed ∧ w.settings.setting_time = 0 := fun len =>
    (increment_all (R := fun w w' => w.settings.Filed ∧ w.settings.setting_time = 0 →
      w'.settings.Filed ∧ w'.settings.setting_time = 0) (fun _ _ h => ⟨h.1.same, h.2⟩)
      (fun _ _ _ h => ⟨h.1.same, h.2⟩) len).keeps fun _ _ h => h
  refine .cond (.pre (P := fun w => w.settings.Filed ∧ w.settings.setting_time = 0) ?_
    fun w h => ⟨h.1.toFiled, h.1.confirmed.setting_time⟩) fun w h _ => .inr (.inr (.inl h))
  refine .seq .skip <| .seq (.of_keeps ⟨(hadd 8).unchecked, (hadd 6).unchecked⟩) <|
    .seq (R := fun w => w.settings.Filed ∧ w.settings.Confirmed) (.act fun w h => ?_) <|
    .seq (show_settings_editing.post fun w h => .inr (.inl h)) .skip
  obtain ⟨hf, hd⟩ := set_MSID_digits h.1
  exact ⟨hf, hd, h.2⟩

/-- A part of the radio log. -/
theorem browse_between {p : Prog World} (h : p.All Browses)
    (ht : p.All fun w w' => w'.setting_time = w.setting_time) :
    Ends n (fun w => w.settings.Idle) p.unchecked fun w => w.settings.Between := by
  refine Ends.post (R := fun w => w.settings.Idle) (.of_keeps (Keeps.unchecked ?_))
    fun w h => .inr (.inr (.inr h))
  refine (h.and ht).keeps fun w w' ⟨hb, hs⟩ hw => ⟨hw.toFiled.other hb.MS_MSID hb.openOk, ?_,
    (show w'.setting_time = w.setting_time from hs).trans hw.pending⟩
  show w'.MS ∈ [1, 10, 11, 12]
  rcases hb.MS with hM | hM | hM <;> rw [hM]
  · exact hw.MS
  · decide
  · decide

theorem ax_start_setting_time :
    MS_thread_ax_start.All fun w w' => w'.setting_time = w.setting_time :=
  ⟨fun _ => rfl, fun _ => rfl, fun _ => rfl, ⟨⟨fun _ => rfl, fun _ => rfl, trivial⟩, trivial⟩,
    fun _ => rfl, fun _ => rfl, trivial⟩

theorem ax_refresh_setting_time :
    MS_thread_ax_refresh.All fun w w' => w'.setting_time = w.setting_time :=
  ⟨fun _ => rfl, fun _ => rfl, fun _ => rfl, fun _ => rfl, ⟨fun _ => rfl, trivial⟩, fun _ => rfl,
    fun _ => rfl, fun _ => rfl, fun _ => rfl, trivial⟩

theorem ax_setting_time : MS_thread_ax.All fun w w' => w'.setting_time = w.setting_time := by
  have hclamp : ∀ (i j : Fin 7) (max : UInt8),
      (clamp i j max).All fun w w' => w'.setting_time = w.setting_time :=
    fun _ _ _ => ⟨fun _ => rfl, trivial⟩
  have hshow : ∀ addr : World → ℕ,
      (show_ax_record addr).All fun w w' => w'.setting_time = w.setting_time :=
    fun _ => ⟨fun _ => rfl, fun _ => rfl, trivial⟩
  have hredraw : redraw_date.All fun w w' => w'.setting_time = w.setting_time := fun _ => rfl
  exact ⟨⟨⟨fun _ => rfl, ⟨fun _ => rfl, trivial⟩, trivial⟩, trivial⟩,
    ⟨⟨⟨⟨fun _ => rfl, fun _ => rfl, hredraw, trivial⟩, trivial⟩,
      ⟨⟨⟨⟨⟨fun _ => rfl, trivial, fun _ => rfl, trivial⟩, hshow _, trivial⟩, trivial⟩,
        fun _ => rfl, hredraw, trivial⟩, trivial⟩,
      ⟨⟨⟨⟨fun _ => rfl, trivial, fun _ => rfl, hshow _, trivial⟩, trivial⟩,
        fun _ => rfl, hredraw, trivial⟩, trivial⟩,
      ⟨⟨⟨fun _ => rfl, hredraw, trivial⟩, hclamp 5 5 12, hclamp 4 4 31, fun _ => rfl,
        hclamp 2 2 23, hclamp 1 1 59, hclamp 0 0 59, fun _ => rfl, fun _ => rfl, hredraw, trivial⟩,
        trivial⟩,
      ⟨⟨fun _ => rfl, fun _ => rfl, fun _ => rfl, trivial⟩, trivial⟩, trivial⟩, trivial⟩, trivial⟩

end states

/-! ### Runs -/

theorem Settings.Between.radio {w : World} (h : w.settings.Between) (rssi : ℤ)
    (rx_buffer : List UInt8) (rx_len : ℕ) :
    (w.rf4068_rx_callback rssi rx_buffer rx_len).settings.Between := by
  have hM : (w.rf4068_rx_callback rssi rx_buffer rx_len).MS =
      if w.MS = 11 ∧ publishes rx_buffer rx_len w.radio then 12 else w.MS :=
    MeterTester.rf4068_rx_callback_MS rssi rx_buffer rx_len w.radio w.MS
  split_ifs at hM with hp
  · have h₁₁ : w.settings.MS = 11 := hp.1
    rcases h with h | h | h | h
    · exact absurd (h.MS.symm.trans h₁₁) (by decide)
    · exact absurd (h.MS.symm.trans h₁₁) (by decide)
    · exact absurd (h₁₁ ▸ h.MS) (by decide)
    · refine .inr (.inr (.inr ⟨h.toFiled.same, ?_, h.pending⟩))
      show (w.rf4068_rx_callback rssi rx_buffer rx_len).MS ∈ [1, 10, 11, 12]
      rw [hM]
      decide
  · have he : (w.rf4068_rx_callback rssi rx_buffer rx_len).settings = w.settings := by
      show (⟨_, _, _, _, _⟩ : Settings) = ⟨_, _, _, _, _⟩
      rw [hM]
      rfl
    rw [he]
    exact h

/-- **A turn** that stores no digit outside the arrays. -/
theorem turn_between {w w' : World} (h : w.settings.Between) (hs : ¬ Strays w)
    (he : main_turn.unchecked.exec 0 w = some w') : w'.settings.Between := by
  rw [main_turn_go] at he
  obtain ⟨v, hv, rfl⟩ := Option.map_eq_some_iff.mp he
  show v.settings.Between
  rcases h with h | h | h | h
  · rw [show w.MS = 0 from h.MS] at hv
    exact init_between w.entered v h hv
  · rw [show w.MS = 2 from h.MS] at hv
    exact SettingMs_between w.entered v ⟨h, fun hb hn hc => hs ⟨h.MS, hb, hn, hc⟩⟩ hv
  · have hM : w.MS ∈ [3, 4, 5] := h.MS
    simp only [List.mem_cons, List.not_mem_nil, or_false] at hM
    rcases hM with hM | hM | hM <;> rw [hM] at hv
    · exact test_between w.entered v h hv
    · exact ERROR_between w.entered v h hv
    · exact pass_between w.entered v h hv
  · have hM : w.MS ∈ [1, 10, 11, 12] := h.MS
    simp only [List.mem_cons, List.not_mem_nil, or_false] at hM
    rcases hM with hM | hM | hM | hM <;> rw [hM] at hv
    · exact SelectMode_between w.entered v ⟨h.toFiled, hM, h.pending⟩ hv
    · exact browse_between MS_thread_ax_start_browses ax_start_setting_time w.entered v h hv
    · exact browse_between MS_thread_ax_browses ax_setting_time w.entered v h hv
    · exact browse_between MS_thread_ax_refresh_browses ax_refresh_setting_time w.entered v h hv

section runs
variable {fs : Fs} {devices : ℕ → Device} {tasks : ℕ → Task}

theorem between_state_of (hfs : fs.Works) (n : ℕ) (w : World)
    (h : state_of fs devices tasks n = some w)
    (hs : ∀ m v, m < n → state_of fs devices tasks m = some v → tasks m = .main → ¬ Strays v) :
    w.settings.Between := by
  induction n generalizing w with
  | zero =>
      cases h
      exact .inl ⟨hfs.of_openOk (Dfs.my_dfs_init_openOk _), rfl, rfl⟩
  | succ n ih =>
      obtain ⟨v, hv, h⟩ := Option.bind_eq_some_iff.mp h
      have hbetween := ih v hv fun m u hm => hs m u (by omega)
      cases ht : tasks n with
      | main =>
          rw [ht] at h
          exact turn_between hbetween (hs n v (by omega) hv ht) h
      | radio rssi rx_buffer rx_len =>
          rw [ht] at h
          cases h
          exact hbetween.radio rssi rx_buffer rx_len

end runs

/-- **Only confirmed settings are tested.**  In a run whose files work, and in which no digit has
been stored outside the arrays, a turn that ends in the state of the test finds the digits of the
file in the lists, and no pending edit of the time. -/
theorem confirmed_tested {fs : Fs} (hfs : fs.Works) (devices : ℕ → Device) (tasks : ℕ → Task)
    {n : ℕ} {w w' : World} (hw : state_of fs devices tasks n = some w) (ht : tasks n = .main)
    (hs : ∀ m v, m ≤ n → state_of fs devices tasks m = some v → tasks m = .main → ¬ Strays v)
    (hturn : Task.main.go w = some w') (hM : w'.MS = 3) :
    w'.settings.Confirmed := by
  have hbetween := between_state_of hfs n w hw fun m v hm => hs m v hm.le
  have hbetween' := turn_between hbetween (hs n w le_rfl hw ht) hturn
  have hM : w'.settings.MS = 3 := hM
  rcases hbetween' with h | h | h | h
  · exact absurd (h.MS.symm.trans hM) (by decide)
  · exact absurd (h.MS.symm.trans hM) (by decide)
  · exact h.confirmed
  · exact absurd (hM ▸ h.MS) (by decide)

/-- The keys of successive moments, with the start button held down. -/
def started (keys : List ℕ) (n : ℕ) : Device := { keypad keys n with pin := fun _ => false }

/-- DOWN and OK enter the mode of the long serials; a digit of the serial is edited, DOWN, DOWN and
LEFT, LEFT move to the last digit of the time; then five digits.  In three of the moments the clock
is read. -/
def overrun_keys : List ℕ :=
  [16, BUTTON_DOWN, BUTTON_OK, 16, 5, BUTTON_DOWN, 16, BUTTON_DOWN, 16, BUTTON_LEFT, BUTTON_LEFT,
    0, 0, 0, 0, 0]

/-- The run whose settings are confirmed: OK, and the start button in the same turn. -/
def confirmed_keys : List ℕ := [16, BUTTON_DOWN, BUTTON_OK, 16, BUTTON_OK]

/-- The digit keys themselves take the cursor from `25` to `30`, and the test starts with a digit
that is not in the file and an edit of the time that is pending. -/
theorem not_confirmed_digits :
    (state_of Fs.empty (started overrun_keys) (fun _ => .main) 13).map (fun w =>
      (w.MS, w.setting_time, decide (w.settings.file.take 20 = w.settings.digits))) =
        some (3, 1, false) ∧
      ¬ ∀ (fs : Fs), fs.Works → ∀ (devices : ℕ → Device) (tasks : ℕ → Task) (n : ℕ) (w w' : World),
        state_of fs devices tasks n = some w → tasks n = .main → Task.main.go w = some w' →
          w'.MS = 3 → w'.settings.Confirmed := by
  have hrun : (state_of Fs.empty (started overrun_keys) (fun _ => .main) 13).map (fun w =>
      (w.MS, w.setting_time, decide (w.settings.file.take 20 = w.settings.digits))) =
        some (3, 1, false) := by decide +kernel
  refine ⟨hrun, fun h => ?_⟩
  obtain ⟨w', hw', he⟩ := Option.map_eq_some_iff.mp hrun
  simp only [Prod.mk.injEq] at he
  obtain ⟨w, hw, hgo⟩ := Option.bind_eq_some_iff.mp hw'
  have hc := h Fs.empty (fun _ => rfl) _ _ 12 w w' hw rfl hgo he.1
  exact absurd (hc.setting_time.symm.trans he.2.1) (by decide)

/-- The settings of `confirmed_keys` are confirmed when the test starts. -/
theorem confirmed_tested_ok : ∃ w w', state_of Fs.empty (started confirmed_keys) (fun _ => .main) 3 =
    some w ∧ Task.main.go w = some w' ∧ w'.MS = 3 ∧ w'.settings.Confirmed := by
  have hrun : ((state_of Fs.empty (started confirmed_keys) (fun _ => .main) 3).bind
      Task.main.go).map (fun w => w.MS) = some 3 := by decide +kernel
  have hkeys : ∀ m ≤ 3, ((state_of Fs.empty (started confirmed_keys) (fun _ => .main) m).all
      fun v => decide (10 ≤ v.now.button)) = true := by decide +kernel
  obtain ⟨w', hw', hM⟩ := Option.map_eq_some_iff.mp hrun
  obtain ⟨w, hw, hgo⟩ := Option.bind_eq_some_iff.mp hw'
  refine ⟨w, w', hw, hgo, hM, confirmed_tested (fun _ => rfl) (started confirmed_keys)
    (fun _ => .main) hw rfl (fun m v hm hv _ hs => ?_) hgo hM⟩
  have hkey := hkeys m hm
  rw [hv] at hkey
  exact absurd hs.2.1 (Nat.not_lt.mpr (of_decide_eq_true hkey))

end MeterTester
