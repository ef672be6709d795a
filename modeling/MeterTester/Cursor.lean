import MeterTester.Turn

/-! # The cursor of the settings editor

`choose_number` packs a row (tens) and a column (units): row `0` are the digits of the serial,
row `1` those of the reading, row `2` those of the time, and `30` stands for confirmed settings.
`Within` lists the places a cursor may have, `digit_cell` the cell a digit key writes there.

A run is a schedule of turns of the main loop and of frames at the radio task (`Task`); the keys
are what the devices show.  `cursor_safe_iff`: along a run every settings turn is `Safe` exactly
when none of them starts with a key that `Escapes`, and there are two such keys.  A digit key in
the last column of rows `1` and `2` is wrapped for the short serials only, and the keys LEFT and
RIGHT are not kept from moving a cursor that stands on `30`. -/

namespace MeterTester

open Interleave Interleave.Prog World

/-! ### Places and cells -/

/-- The places of the cursor in the mode `choose`. -/
def Within (choose n : ℕ) : Prop :=
  n ≤ 5 ∨ (choose = 1 ∧ n ≤ 7) ∨ (10 ≤ n ∧ n ≤ 15) ∨ (20 ≤ n ∧ n ≤ 25) ∨ n = 30

instance (choose n : ℕ) : Decidable (Within choose n) := by unfold Within; infer_instance

/-- The cells of the arrays that hold digits. -/
inductive Cell where
  | zf_list6 (row i : ℕ)
  | zf_list7 (i : ℕ)
  | zf_list8 (i : ℕ)
deriving DecidableEq

/-- The digit cells of the mode `choose`. -/
def Cell.IsDigit (choose : ℕ) : Cell → Prop
  | .zf_list6 row i => row = choose ∧ choose ≤ 2 ∧ 1 ≤ i ∧ i ≤ if choose = 1 then 8 else 6
  | .zf_list7 i => 1 ≤ i ∧ i ≤ 6
  | .zf_list8 i => i = 1 ∨ i = 2 ∨ i = 4 ∨ i = 5 ∨ i = 7 ∨ i = 8

/-- The content of a cell; `none` outside the array. -/
def World.cell (w : World) : Cell → Option UInt8
  | .zf_list6 row i => if row < 3 then (w.zf_list6 row)[i]? else none
  | .zf_list7 i => w.zf_list7[i]?
  | .zf_list8 i => w.zf_list8[i]?

/-- The cell that a digit key writes when the cursor stands at `n`. -/
def digit_cell (choose n : ℕ) : Cell :=
  if n < 10 then .zf_list6 choose (n + 1)
  else if n < 20 then .zf_list7 (n % 10 + 1)
  else .zf_list8 (n % 10 + 1 + n % 10 / 2)

/-- At every place the cell is a digit cell. -/
theorem digit_cell_isDigit {choose n : ℕ} (hc : choose ≤ 2) (hn : Within choose n)
    (hlt : n < 30) : (digit_cell choose n).IsDigit choose := by
  unfold Within at hn
  unfold digit_cell
  split_ifs with h₁ h₂
  · refine ⟨rfl, hc, by omega, ?_⟩
    split_ifs <;> omega
  · exact ⟨by omega, by omega⟩
  · unfold Cell.IsDigit
    omega

/-! ### The keys that move the cursor -/

/-- The cursor behind a digit key. -/
def cursor_digit (choose n : ℕ) : ℕ :=
  let n := (n + 1) % 0x100
  if choose = 1 then if 8 ≤ n % 10 ∧ n < 10 then 0 else n
  else if 6 ≤ n % 10 then n / 10 * 10 else n

def cursor_up (n : ℕ) : ℕ :=
  let n := if 5 < n % 10 then n / 10 * 10 + 5 else n
  if 10 ≤ n then n - 10 else 20 + n

def cursor_down (n : ℕ) : ℕ := ((if 5 < n % 10 then 5 else n) + 10) % 0x100 % 30

def cursor_left (choose n : ℕ) : ℕ :=
  if 0 < n % 10 then n - 1 else if n < 10 ∧ choose = 1 then 7 else n / 10 * 10 + 5

def cursor_right (choose n : ℕ) : ℕ :=
  let n := (n + 1) % 0x100
  if n < 10 ∧ choose = 1 then n / 10 * 10 + n % 10 % 8 else n / 10 * 10 + n % 10 % 6

/-- `reverse = 0; thread_time = 9;` behind a new place of the cursor. -/
def World.move (w : World) (n : ℕ) : World :=
  { w with choose_number := n, reverse := 0, thread_time := 9 }

@[simp] theorem World.move_button_number (w : World) (n : ℕ) :
    (w.move n).button_number = w.button_number := rfl

section keys
variable (fuel : ℕ) (w : World)

theorem up_key_exec : up_key.exec fuel w = some (w.move (cursor_up w.choose_number)) := by
  by_cases h₁ : 5 < w.choose_number % 10
  · by_cases h₂ : 10 ≤ w.choose_number / 10 * 10 + 5 <;>
      simp [up_key, redraw, cursor_up, World.move, -Nat.reduceLeDiff, h₁, h₂]
  · by_cases h₂ : 10 ≤ w.choose_number <;> simp [up_key, redraw, cursor_up, World.move, h₁, h₂]

theorem down_key_exec : down_key.exec fuel w = some (w.move (cursor_down w.choose_number)) := by
  by_cases h : 5 < w.choose_number % 10 <;> simp [down_key, redraw, cursor_down, World.move, h]

theorem left_key_exec :
    left_key.exec fuel w = some (w.move (cursor_left w.choose w.choose_number)) := by
  by_cases h₁ : 0 < w.choose_number % 10
  · simp [left_key, redraw, cursor_left, World.move, h₁]
  · by_cases h₂ : w.choose_number < 10 ∧ w.choose = 1 <;>
      simp [left_key, redraw, cursor_left, World.move, h₁, h₂]

theorem right_key_exec :
    right_key.exec fuel w = some (w.move (cursor_right w.choose w.choose_number)) := by
  by_cases h : (w.choose_number + 1) % 0x100 < 10 ∧ w.choose = 1 <;>
    simp [right_key, redraw, cursor_right, World.move, h]

/-- The statements behind the store of a digit. -/
theorem behind_digit_exec :
    (block [.act fun w => { w with choose_number := (w.choose_number + 1) % 0x100 },
      .ite (fun w => w.choose = 1)
        (.cond (fun w => 8 ≤ w.choose_number % 10 ∧ w.choose_number < 10)
          (.act fun w => { w with choose_number := 0 }))
        (.cond (fun w => 6 ≤ w.choose_number % 10)
          (.act fun w => { w with choose_number := w.choose_number / 10 * 10 })),
      redraw]).exec fuel w = some (w.move (cursor_digit w.choose w.choose_number)) := by
  by_cases h₁ : w.choose = 1
  · by_cases h₂ : 8 ≤ (w.choose_number + 1) % 0x100 % 10 ∧ (w.choose_number + 1) % 0x100 < 10 <;>
      simp [redraw, cursor_digit, World.move, h₁, h₂]
  · by_cases h₂ : 6 ≤ (w.choose_number + 1) % 0x100 % 10 <;>
      simp [redraw, cursor_digit, World.move, h₁, h₂]

theorem digit_key_exec :
    digit_key.exec fuel w = (write_digit.exec fuel w).map fun v =>
      v.move (cursor_digit v.choose v.choose_number) := by
  rw [digit_key, exec_block_cons]
  cases write_digit.exec fuel w with
  | none => rfl
  | some v => exact behind_digit_exec fuel v

end keys

section within
variable {choose n : ℕ}

theorem cursor_up_within (h : Within choose n) : Within choose (cursor_up n) := by
  unfold Within cursor_up at *
  dsimp only
  split_ifs <;> omega

theorem cursor_down_within (h : Within choose n) : Within choose (cursor_down n) := by
  unfold Within cursor_down at *
  split_ifs <;> omega

theorem cursor_left_within (h : Within choose n) :
    Within choose (cursor_left choose n) ↔ n ≠ 30 := by
  unfold Within cursor_left at *
  split_ifs <;> omega

theorem cursor_right_within (h : Within choose n) :
    Within choose (cursor_right choose n) ↔ n ≠ 30 := by
  unfold Within cursor_right at *
  dsimp only
  split_ifs <;> omega

theorem cursor_digit_within (h : Within choose n) (hlt : n < 30) :
    Within choose (cursor_digit choose n) ↔ ¬ (choose = 1 ∧ (n = 15 ∨ n = 25)) := by
  unfold Within cursor_digit at *
  dsimp only
  split_ifs <;> omega

/-- The cursor behind a digit key or an arrow. -/
def moved (choose key n : ℕ) : ℕ :=
  if key < 10 then cursor_digit choose n
  else if key = BUTTON_UP then cursor_up n
  else if key = BUTTON_DOWN then cursor_down n
  else if key = BUTTON_LEFT then cursor_left choose n
  else cursor_right choose n

def Arrow (key : ℕ) : Prop :=
  key = BUTTON_UP ∨ key = BUTTON_DOWN ∨ key = BUTTON_LEFT ∨ key = BUTTON_RIGHT

/-- The keys that move the cursor from the place `n`. -/
def Moves (key n : ℕ) : Prop := (key < 10 ∧ n < 30) ∨ Arrow key

/-- The keys that take the cursor out of its places. -/
def Escapes (choose key n : ℕ) : Prop :=
  (key < 10 ∧ choose = 1 ∧ (n = 15 ∨ n = 25)) ∨
    ((key = BUTTON_LEFT ∨ key = BUTTON_RIGHT) ∧ n = 30)

/-- **The places are kept by all keys but those that escape.** -/
theorem moved_within {key : ℕ} (h : Within choose n) (hk : Moves key n) :
    Within choose (moved choose key n) ↔ ¬ Escapes choose key n := by
  unfold moved Escapes
  rcases hk with ⟨hk, hlt⟩ | rfl | rfl | rfl | rfl
  · rw [if_pos hk, cursor_digit_within h hlt]
    simp [hk, BUTTON_LEFT, BUTTON_RIGHT]
    omega
  · simp [BUTTON_UP, BUTTON_LEFT, BUTTON_RIGHT, cursor_up_within h]
  · simp [BUTTON_UP, BUTTON_DOWN, BUTTON_LEFT, BUTTON_RIGHT, cursor_down_within h]
  · simp [BUTTON_UP, BUTTON_DOWN, BUTTON_LEFT, cursor_left_within h]
  · simp [BUTTON_UP, BUTTON_DOWN, BUTTON_LEFT, BUTTON_RIGHT, cursor_right_within h]

/-- No key that moves the cursor confirms the settings. -/
theorem moved_ne_thirty {key : ℕ} (h : Within choose n) (hk : Moves key n) :
    moved choose key n ≠ 30 := by
  unfold Within at h
  have hmod : (n + 1) % 0x100 = n + 1 := by omega
  rcases hk with ⟨hk, hlt⟩ | rfl | rfl | rfl | rfl
  · rw [moved, if_pos hk, cursor_digit, hmod]
    split_ifs <;> omega
  · simp only [moved, BUTTON_UP, Nat.reduceLT, if_false, if_true, cursor_up]
    split_ifs <;> omega
  · simp only [moved, BUTTON_UP, BUTTON_DOWN, Nat.reduceLT, if_false, if_true, cursor_down,
      Nat.reduceEqDiff]
    split_ifs <;> omega
  · simp only [moved, BUTTON_UP, BUTTON_DOWN, BUTTON_LEFT, Nat.reduceLT, if_false, if_true,
      cursor_left, Nat.reduceEqDiff]
    split_ifs <;> omega
  · simp only [moved, BUTTON_UP, BUTTON_DOWN, BUTTON_LEFT, BUTTON_RIGHT, Nat.reduceLT, if_false,
      cursor_right, Nat.reduceEqDiff, hmod]
    split_ifs <;> omega

end within

/-! ### Writing a digit -/

namespace World

/-- Store `v` in a cell. -/
def put_cell (w : World) (v : UInt8) : Cell → World
  | .zf_list6 row i => set_list6 w row i v
  | .zf_list7 i => { w with zf_list7 := w.zf_list7.setIfInBounds i v }
  | .zf_list8 i => { w with zf_list8 := w.zf_list8.setIfInBounds i v }

theorem cell_put_cell (w : World) (v : UInt8) {choose : ℕ} {c : Cell} (hc : c.IsDigit choose) :
    (w.put_cell v c).cell c = some v := by
  cases c with
  | zf_list6 row i =>
      obtain ⟨rfl, hrow, -, hi⟩ := hc
      have hi : i < 10 := by split_ifs at hi <;> omega
      simp [put_cell, cell, set_list6, hi, show row < 3 by omega]
  | zf_list7 i =>
      have hi : i < 7 := by have := hc.2; omega
      simp [put_cell, cell, hi]
  | zf_list8 i =>
      have hi : i < 10 := by unfold Cell.IsDigit at hc; omega
      simp [put_cell, cell, hi]

theorem cell_put_cell_ne (w : World) (v : UInt8) {c c' : Cell} (h : c' ≠ c) :
    (w.put_cell v c).cell c' = w.cell c' := by
  cases c <;> cases c' <;> try rfl
  case zf_list6.zf_list6 row i row' i' =>
    by_cases hr : row' = row
    · subst hr
      have hi : i ≠ i' := fun hi => h (by rw [hi])
      simp [put_cell, cell, set_list6, hi]
    · simp [put_cell, cell, set_list6, hr]
  case zf_list7.zf_list7 i i' =>
    have hi : i ≠ i' := fun hi => h (by rw [hi])
    simp [put_cell, cell, hi]
  case zf_list8.zf_list8 i i' =>
    have hi : i ≠ i' := fun hi => h (by rw [hi])
    simp [put_cell, cell, hi]

section put_cell
variable (w : World) (v : UInt8) (c : Cell)

@[simp] theorem put_cell_button_number : (w.put_cell v c).button_number = w.button_number := by
  cases c <;> rfl

@[simp] theorem put_cell_MS : (w.put_cell v c).MS = w.MS := by cases c <;> rfl
@[simp] theorem put_cell_choose : (w.put_cell v c).choose = w.choose := by cases c <;> rfl

@[simp] theorem put_cell_choose_number : (w.put_cell v c).choose_number = w.choose_number := by
  cases c <;> rfl

end put_cell

end World

/-- At the places of the cursor the guards hold, and one digit cell is written. -/
theorem write_digit_exec (fuel : ℕ) {w : World} (hc : w.choose ≤ 2)
    (hn : Within w.choose w.choose_number) (hlt : w.choose_number < 30) :
    write_digit.exec fuel w =
      some (w.put_cell (key_cell w) (digit_cell w.choose w.choose_number)) := by
  unfold Within at hn
  by_cases h₁ : w.choose_number < 10
  · have hguard : w.choose < 3 ∧ w.choose_number + 1 < 10 := by omega
    simp [write_digit, digit_cell, put_cell, h₁, hguard]
  · by_cases h₂ : w.choose_number < 20
    · have hguard : w.choose_number % 10 + 1 < 7 := by omega
      simp [write_digit, digit_cell, put_cell, h₁, h₂, hguard]
    · have hguard : w.choose_number % 10 + 1 + w.choose_number % 10 / 2 < 10 := by omega
      simp [write_digit, digit_cell, put_cell, h₁, h₂, hlt, hguard]

/-! ### A turn in state `2` -/

/-- A part of a settings turn that neither moves the cursor nor leaves the state; of the cells
only those of the time may change. -/
structure Stays (w w' : World) : Prop where
  button_number : w'.button_number = w.button_number
  MS : w'.MS = w.MS
  choose : w'.choose = w.choose
  choose_number : w'.choose_number = w.choose_number
  cell : ∀ c choose, ¬ c.IsDigit choose → w'.cell c = w.cell c

theorem Stays.refl (w : World) : Stays w w := ⟨rfl, rfl, rfl, rfl, fun _ _ _ => rfl⟩

theorem Stays.trans {w w' w'' : World} (h : Stays w w') (h' : Stays w' w'') : Stays w w'' :=
  ⟨h'.button_number.trans h.button_number, h'.MS.trans h.MS, h'.choose.trans h.choose,
    h'.choose_number.trans h.choose_number,
    fun c choose hc => (h'.cell c choose hc).trans (h.cell c choose hc)⟩

theorem Shows.stays {w w' : World} (h : Shows w w') : Stays w w' := by
  refine ⟨h.button_number, h.MS, h.choose, h.choose_number, fun c choose hc => ?_⟩
  cases c with
  | zf_list6 row i => simp [cell, h.zf_list6]
  | zf_list7 i => simp [cell, h.zf_list7]
  | zf_list8 i =>
      unfold Cell.IsDigit at hc
      exact h.zf_list8 i (by simp; omega)

theorem blink_settings_exec (fuel : ℕ) (w : World) :
    ∃ w', blink_settings.exec fuel w = some w' ∧ Stays w w' :=
  Straight.exec Stays.refl Stays.trans fuel (by simp [blink_settings, Prog.cond, block, Straight,
    MS_thread_GetTime]) (blink_settings_shows.mono fun _ _ => Shows.stays) w

theorem time_row_exec (fuel : ℕ) (w : World) :
    ∃ w', time_row.exec fuel w = some w' ∧ Stays w w' :=
  Straight.exec Stays.refl Stays.trans fuel (by simp [time_row, Prog.cond, block, Straight,
    MS_thread_SetTime, clamp]) (time_row_shows.mono fun _ _ => Shows.stays) w

section settings_key
variable (fuel : ℕ) {w : World}

theorem settings_key_digit (hc : w.choose ≤ 2) (hn : Within w.choose w.choose_number)
    (hk : w.button_number < 10) (hlt : w.choose_number < 30) :
    settings_key.exec fuel w =
      some ((w.put_cell (key_cell w) (digit_cell w.choose w.choose_number)).move
        (cursor_digit w.choose w.choose_number)) := by
  have hdigit := digit_key_exec fuel w
  rw [write_digit_exec fuel hc hn hlt] at hdigit
  have hne : ∀ k, 10 ≤ k → w.button_number ≠ k := by omega
  simp [settings_key, hdigit, hk, hlt, World.move, is_arrow, hne, BUTTON_UP, BUTTON_DOWN,
    BUTTON_LEFT, BUTTON_RIGHT, BUTTON_RETUEN, BUTTON_OK]

theorem settings_key_arrow (hk : Arrow w.button_number) :
    ∃ w', settings_key.exec fuel w = some w' ∧
      Stays (w.move (moved w.choose w.button_number w.choose_number)) w' := by
  obtain ⟨w', hw', hs⟩ :=
    time_row_exec fuel (w.move (moved w.choose w.button_number w.choose_number))
  refine ⟨w', ?_, hs⟩
  have hb : w'.button_number = w.button_number := hs.button_number
  rcases hk with hk | hk | hk | hk
  all_goals
    simp only [hk, moved, BUTTON_UP, BUTTON_DOWN, BUTTON_LEFT, BUTTON_RIGHT, Nat.reduceLT,
      Nat.reduceEqDiff, if_true, if_false] at hw'
    simp [settings_key, hk, up_key_exec, down_key_exec, left_key_exec, right_key_exec, is_arrow,
      BUTTON_UP, BUTTON_DOWN, BUTTON_LEFT, BUTTON_RIGHT, BUTTON_RETUEN, BUTTON_OK, hw', hb]

theorem return_key_exec : ∃ w', return_key.exec fuel w = some w' ∧
    w'.button_number = w.button_number ∧ (∀ c, w'.cell c = w.cell c) ∧
    ((w'.MS = w.MS ∧ w'.choose = w.choose ∧ w'.choose_number = 0) ∨
      (w'.MS = 1 ∧ w'.choose = 0)) := by
  by_cases h₁ : w.choose_number = 30
  · refine ⟨w.move 0, by simp [return_key, redraw, World.move, h₁], rfl, fun c => ?_,
      .inl ⟨rfl, rfl, rfl⟩⟩
    cases c <;> rfl
  · by_cases h₂ : w.setting_time = 1
    · refine ⟨{ w.move 0 with setting_time := 0 },
        by simp [return_key, redraw, World.move, h₁, h₂], rfl, fun c => ?_,
        .inl ⟨rfl, rfl, rfl⟩⟩
      cases c <;> rfl
    · refine ⟨{ w with MS := 1, thread_time := 0, choose := 0 },
        by simp [return_key, h₁, h₂], rfl, fun c => ?_, .inr ⟨rfl, rfl⟩⟩
      cases c <;> rfl

theorem set_MSID_stays (w : World) : Stays w w.set_MSID :=
  ⟨rfl, rfl, rfl, rfl, fun c _ _ => by cases c <;> rfl⟩

theorem ok_key_exec : ∃ w', ok_key.exec fuel w = some w' ∧
    w'.button_number = w.button_number ∧
    (∀ c choose, ¬ c.IsDigit choose → w'.cell c = w.cell c) ∧ w'.MS = w.MS ∧
    w'.choose = w.choose ∧ (w'.choose_number = w.choose_number ∨ w'.choose_number = 30) := by
  by_cases h : w.choose_number < 30
  · have hset : (Prog.cond (fun w => w.setting_time = 1) (block [
        .act fun w => { w with setting_time := 0 }, MS_thread_SetTime])).All Stays :=
      All.mono (fun _ _ => Shows.stays) ⟨⟨fun _ => shows_plain rfl, MS_thread_SetTime_shows, trivial⟩, trivial⟩
    obtain ⟨v, hv, hs⟩ := Straight.exec Stays.refl Stays.trans fuel (by
      simp [Prog.cond, block, Straight, MS_thread_SetTime, clamp]) hset w.set_MSID
    have hs := (set_MSID_stays w).trans hs
    refine ⟨{ v with choose_number := 30 }, ?_, hs.button_number, fun c choose hc => ?_, hs.MS,
      hs.choose, .inr rfl⟩
    · rw [ok_key, exec_cond, if_pos (by simpa using h), exec_block_cons, exec_act,
        Option.bind_some, exec_block_cons, hv]
      rfl
    · rw [← hs.cell c choose hc]
      cases c <;> rfl
  · exact ⟨w, by simp [ok_key, h], rfl, fun _ _ _ => rfl, rfl, rfl, .inl rfl⟩

/-- The keys that do not move the cursor. -/
theorem settings_key_other (hk : ¬ Moves w.button_number w.choose_number) :
    settings_key.exec fuel w =
      if w.button_number = BUTTON_RETUEN then return_key.exec fuel w
      else if w.button_number = BUTTON_OK then ok_key.exec fuel w
      else some w := by
  obtain ⟨hdigit, harrow⟩ := not_or.mp hk
  unfold Arrow BUTTON_UP BUTTON_DOWN BUTTON_LEFT BUTTON_RIGHT at harrow
  simp only [not_or] at harrow
  obtain ⟨hup, hdown, hleft, hright⟩ := harrow
  by_cases hr : w.button_number = 12
  · obtain ⟨w', hw', hb, -⟩ := return_key_exec fuel (w := w)
    simp [settings_key, hr, is_arrow, BUTTON_UP, BUTTON_DOWN, BUTTON_LEFT, BUTTON_RIGHT,
      BUTTON_RETUEN, BUTTON_OK, hw', hb]
  by_cases ho : w.button_number = 15
  · obtain ⟨w', hw', -⟩ := ok_key_exec fuel (w := w)
    simp [settings_key, ho, is_arrow, BUTTON_UP, BUTTON_DOWN, BUTTON_LEFT, BUTTON_RIGHT,
      BUTTON_RETUEN, BUTTON_OK, hw']
  by_cases h16 : w.button_number = 16
  · simp [settings_key, h16, BUTTON_RETUEN, BUTTON_OK]
  by_cases hb : w.button_number < 10
  · have hn : ¬ w.choose_number < 30 := fun hn => hdigit ⟨hb, hn⟩
    simp [settings_key, h16, hn, hup, hdown, hleft, hright, hr, ho, is_arrow, BUTTON_UP,
      BUTTON_DOWN, BUTTON_LEFT, BUTTON_RIGHT, BUTTON_RETUEN, BUTTON_OK]
  · simp [settings_key, h16, hb, hup, hdown, hleft, hright, hr, ho, is_arrow, BUTTON_UP,
      BUTTON_DOWN, BUTTON_LEFT, BUTTON_RIGHT, BUTTON_RETUEN, BUTTON_OK]

theorem start_button_exec : ∃ w', start_button.exec fuel w = some w' ∧
    (∀ c, w'.cell c = w.cell c) ∧ w'.choose = w.choose ∧ w'.choose_number = w.choose_number ∧
    (w'.MS = w.MS ∨ (w.choose_number = 30 ∧ w'.MS = 3)) := by
  by_cases h : w.choose_number = 30
  · by_cases hp : (w.rt_pin_read BUTTON9).pin_level BUTTON9 = false
    · refine ⟨{ w.rt_pin_read BUTTON9 with MS := 3 }, by simp [start_button, h, hp], fun c => ?_,
        rfl, rfl, .inr ⟨h, rfl⟩⟩
      cases c <;> rfl
    · refine ⟨w.rt_pin_read BUTTON9, by simp [start_button, h, hp], fun c => ?_, rfl, rfl,
        .inl rfl⟩
      cases c <;> rfl
  · exact ⟨w, by simp [start_button, h], fun _ => rfl, rfl, rfl, .inl rfl⟩

end settings_key

/-- What a settings turn does to the cells. -/
structure Edits (w w' : World) : Prop where
  cell : ∀ c, ¬ c.IsDigit w.choose → w'.cell c = w.cell c
  digit : w.now.button < 10 → w.choose_number < 30 →
    (digit_cell w.choose w.choose_number).IsDigit w.choose ∧
      w'.cell (digit_cell w.choose w.choose_number) = some (UInt8.ofNat w.now.button + 100)

theorem MS_thread_SettingMs_exec {fuel : ℕ} {w v u t : World}
    (hb : blink_settings.exec fuel w = some v) (hk : settings_key.exec fuel v = some u)
    (hs : start_button.exec fuel u = some t) : MS_thread_SettingMs.exec fuel w = some t := by
  simp [MS_thread_SettingMs, hb, hk, hs]

theorem settings_key_moves (fuel : ℕ) {w : World} (hc : w.choose ≤ 2)
    (hn : Within w.choose w.choose_number) (hk : Moves w.button_number w.choose_number) :
    ∃ w', settings_key.exec fuel w = some w' ∧ w'.MS = w.MS ∧ w'.choose = w.choose ∧
      w'.choose_number = moved w.choose w.button_number w.choose_number ∧
      (∀ c, ¬ c.IsDigit w.choose → w'.cell c = w.cell c) ∧
      (w.button_number < 10 →
        w'.cell (digit_cell w.choose w.choose_number) = some (key_cell w)) := by
  rcases hk with ⟨hk, hlt⟩ | hk
  · refine ⟨_, settings_key_digit fuel hc hn hk hlt, by simp [move], by simp [move], ?_, ?_, ?_⟩
    · simp [move, moved, hk]
    · intro c hcell
      have hdigit := digit_cell_isDigit hc hn hlt
      have hne : c ≠ digit_cell w.choose w.choose_number := fun he => hcell (he ▸ hdigit)
      rw [← cell_put_cell_ne w (key_cell w) hne]
      cases c <;> rfl
    · intro _
      rw [← cell_put_cell w (key_cell w) (digit_cell_isDigit hc hn hlt)]
      generalize digit_cell w.choose w.choose_number = c
      cases c <;> rfl
  · obtain ⟨w', hw', hs⟩ := settings_key_arrow fuel hk
    refine ⟨w', hw', hs.MS, hs.choose, hs.choose_number, fun c hcell => ?_, fun hlt => ?_⟩
    · rw [hs.cell c _ hcell]
      cases c <;> rfl
    · unfold Arrow BUTTON_UP BUTTON_DOWN BUTTON_LEFT BUTTON_RIGHT at hk
      omega

theorem settings_key_stays (fuel : ℕ) {w : World}
    (hk : ¬ Moves w.button_number w.choose_number) :
    ∃ w', settings_key.exec fuel w = some w' ∧
      (∀ c choose, ¬ c.IsDigit choose → w'.cell c = w.cell c) ∧
      ((w'.MS = w.MS ∧ w'.choose = w.choose ∧
          (w'.choose_number = w.choose_number ∨ w'.choose_number = 0 ∨ w'.choose_number = 30)) ∨
        (w'.MS = 1 ∧ w'.choose = 0)) := by
  rw [settings_key_other fuel hk]
  split_ifs
  · obtain ⟨w', hw', -, hcell, h | h⟩ := return_key_exec fuel (w := w)
    · exact ⟨w', hw', fun c _ _ => hcell c, .inl ⟨h.1, h.2.1, .inr (.inl h.2.2)⟩⟩
    · exact ⟨w', hw', fun c _ _ => hcell c, .inr h⟩
  · obtain ⟨w', hw', -, hcell, hM, hc, hn⟩ := ok_key_exec fuel (w := w)
    exact ⟨w', hw', hcell, .inl ⟨hM, hc, hn.imp_right .inr⟩⟩
  · exact ⟨w, rfl, fun _ _ _ => rfl, .inl ⟨rfl, rfl, .inl rfl⟩⟩

theorem Within.first (choose : ℕ) : Within choose 0 := .inl (by omega)

theorem Within.confirmed (choose : ℕ) : Within choose 30 := .inr (.inr (.inr (.inr rfl)))

/-- **A turn in state `2`** ends, edits digit cells only, and moves the cursor as `moved` says. -/
theorem settings_turn (fuel : ℕ) {w : World} (hMS : w.MS = 2) (hc : w.choose ≤ 2)
    (hn : Within w.choose w.choose_number) :
    ∃ w', main_turn.exec fuel w = some w' ∧ Edits w w' ∧
      (Moves w.now.button w.choose_number → w'.MS = 2 ∧ w'.choose = w.choose ∧
        w'.choose_number = moved w.choose w.now.button w.choose_number) ∧
      (¬ Moves w.now.button w.choose_number → w'.choose ≤ 2 ∧
        (w'.MS = 2 ∨ w'.MS = 3 → Within w'.choose w'.choose_number)) := by
  obtain ⟨v, hv, hs⟩ := blink_settings_exec fuel w.entered
  have hvb : v.button_number = w.now.button := hs.button_number
  have hvc : v.choose = w.choose := hs.choose
  have hvn : v.choose_number = w.choose_number := hs.choose_number
  have hvM : v.MS = 2 := hs.MS.trans hMS
  have hvcell : ∀ c, ¬ c.IsDigit w.choose → v.cell c = w.cell c := fun c hcell => by
    rw [hs.cell c _ hcell]
    cases c <;> rfl
  have hturn : ∀ {u t}, settings_key.exec fuel v = some u → start_button.exec fuel u = some t →
      main_turn.exec fuel w = some t.ticked := fun hu ht => by
    rw [main_turn_exec, hMS]
    exact congrArg (Option.map ticked) (MS_thread_SettingMs_exec hv hu ht)
  rw [← hvc, ← hvn] at hn
  by_cases hk : Moves w.now.button w.choose_number
  · obtain ⟨u, hu, huM, huc, hun, hucell, hudigit⟩ :=
      settings_key_moves fuel (hvc ▸ hc) hn (by rw [hvb, hvn]; exact hk)
    obtain ⟨t, ht, htcell, htc, htn, htM⟩ := start_button_exec fuel (w := u)
    have hne : u.choose_number ≠ 30 := by
      rw [hun, hvb]
      exact moved_ne_thirty hn (by rw [hvn]; exact hk)
    refine ⟨t.ticked, hturn hu ht, ⟨fun c hcell => ?_, fun hdigit hlt => ?_⟩, fun _ => ⟨?_, ?_, ?_⟩,
      fun h => absurd hk h⟩
    · rw [← hvcell c hcell, ← hucell c (hvc ▸ hcell), ← htcell c]
      cases c <;> rfl
    · have hlt' : v.choose_number < 30 := hvn ▸ hlt
      have hcell := hudigit (hvb ▸ hdigit)
      refine ⟨hvc ▸ hvn ▸ digit_cell_isDigit (hvc ▸ hc) hn hlt', ?_⟩
      rw [← hvc, ← hvn, ← hvb, show UInt8.ofNat v.button_number + 100 = key_cell v from rfl,
        ← hcell, ← htcell]
      generalize digit_cell v.choose v.choose_number = c
      cases c <;> rfl
    · rcases htM with htM | ⟨h30, -⟩
      · exact htM.trans (huM.trans hvM)
      · exact absurd h30 hne
    · exact htc.trans (huc.trans hvc)
    · rw [ticked_choose_number, htn, hun, hvc, hvb, hvn]
  · obtain ⟨u, hu, hucell, hcases⟩ := settings_key_stays fuel (w := v) (by rw [hvb, hvn]; exact hk)
    obtain ⟨t, ht, htcell, htc, htn, htM⟩ := start_button_exec fuel (w := u)
    refine ⟨t.ticked, hturn hu ht, ⟨fun c hcell => ?_, fun hdigit hlt => ?_⟩, fun h => absurd h hk,
      fun _ => ⟨?_, fun hM => ?_⟩⟩
    · rw [← hvcell c hcell, ← hucell c _ hcell, ← htcell c]
      cases c <;> rfl
    · exact absurd (.inl ⟨hdigit, hlt⟩) hk
    · rw [ticked_choose, htc]
      rcases hcases with ⟨-, huc, -⟩ | ⟨-, huc⟩ <;> omega
    · rw [ticked_choose, ticked_choose_number, htc, htn]
      rw [ticked_MS] at hM
      rcases hcases with ⟨-, huc, hun | hun | hun⟩ | ⟨huM, -⟩
      · rw [huc, hun]
        exact hn
      · rw [hun]
        exact .first _
      · rw [hun]
        exact .confirmed _
      · rcases htM with htM | ⟨h30, -⟩
        · omega
        · rw [h30]
          exact .confirmed _

/-! ### Every turn -/

/-- What holds at the start of every turn. -/
structure Settled (w : World) : Prop where
  choose : w.choose ≤ 3
  mode : 2 ≤ w.MS → w.MS ≤ 5 → w.choose ≤ 2
  cursor : w.MS = 2 → Within w.choose w.choose_number

theorem settled_init {fuel : ℕ} {w w' : World} (h : MS_thread_init.exec fuel w = some w') :
    Settled w' := by
  simp only [MS_thread_init, exec_block_cons, exec_block_nil, exec_act, Option.bind_some,
    Option.some.injEq] at h
  subst h
  exact ⟨by simp [store_MSID, get_MSID], by simp [store_MSID, get_MSID], by simp [store_MSID, get_MSID]⟩

theorem settled_select {fuel : ℕ} {w w' : World} (hw : w.choose ≤ 3) (hMS : w.MS = 1)
    (h : MS_thread_SelectMode.exec fuel w = some w') : Settled w' := by
  have hblink : ∃ v, (Prog.cond (fun w => w.thread_time % 10 = 0)
      (.act fun w => { w with reverse := (w.reverse + 1) % 2 })).exec fuel w = some v ∧
      v.button_number = w.button_number ∧ v.choose = w.choose ∧ v.MS = w.MS := by
    by_cases ht : w.thread_time % 10 = 0
    · exact ⟨{ w with reverse := (w.reverse + 1) % 2 },
        by rw [exec_cond, if_pos (by simpa using ht), exec_act], rfl, rfl, rfl⟩
    · exact ⟨w, by rw [exec_cond, if_neg (by simpa using ht)], rfl, rfl, rfl⟩
  obtain ⟨v, hv, hb, hc, hM⟩ := hblink
  rw [MS_thread_SelectMode, exec_block_cons, hv, Option.bind_some] at h
  rw [← hc] at hw
  rw [← hM] at hMS
  by_cases hup : v.button_number = BUTTON_UP
  · simp [hup, BUTTON_UP, BUTTON_DOWN, BUTTON_OK] at h
    subst h
    constructor <;> simp [hMS]
    split_ifs <;> omega
  by_cases hdown : v.button_number = BUTTON_DOWN
  · simp [hdown, BUTTON_UP, BUTTON_DOWN, BUTTON_OK] at h
    subst h
    constructor <;> simp [hMS]
    omega
  by_cases hok : v.button_number = BUTTON_OK
  · by_cases h3 : v.choose = 3
    · simp [hok, h3, BUTTON_UP, BUTTON_DOWN, BUTTON_OK] at h
      subst h
      constructor <;> simp
    · simp [hok, h3, BUTTON_UP, BUTTON_DOWN, BUTTON_OK, MS_thread_GetTime, show_time, get_time,
        tick] at h
      subst h
      constructor <;> simp [Within.first] <;> omega
  · simp [hup, hdown, hok] at h
    subst h
    exact ⟨hw, by omega, by omega⟩

theorem settled_test {fuel : ℕ} {w w' : World} (hw : w.choose ≤ 2) (hMS : w.MS = 3)
    (h : MS_thread_test.exec fuel w = some w') : Settled w' := by
  have hkeeps : MS_thread_test.Keeps fun v => v.choose ≤ 2 ∧ 3 ≤ v.MS ∧ v.MS ≤ 5 := by
    have htest : ∀ v v' : World, Testing v v' → (v.choose ≤ 2 ∧ 3 ≤ v.MS ∧ v.MS ≤ 5) →
        v'.choose ≤ 2 ∧ 3 ≤ v'.MS ∧ v'.MS ≤ 5 := fun v v' ht hv => by
      rcases ht.MS with hM | hM | hM <;> rw [hM, ht.choose] <;> omega
    exact ⟨fun _ h => h, ⟨MS_thread_test0_test.testing.keeps htest, MS_thread_test1_test.testing.keeps htest⟩,
      fun _ h => h, trivial, fun _ h => h, fun _ h => h, trivial⟩
  have hfinal := hkeeps.exec ⟨hw, by omega, by omega⟩ h
  exact ⟨by omega, fun _ _ => hfinal.1, fun hM => by omega⟩

theorem show_settings_exec (fuel : ℕ) (w : World) : ∃ w', show_settings.exec fuel w = some w' ∧
    w'.choose = w.choose ∧ w'.choose_number = 30 := by
  refine ⟨show_time (get_time { w with
    MS := 2, thread_time := 0, reverse := 0, choose_number := 30 }), ?_, rfl, rfl⟩
  rfl

theorem settled_confirmed {w : World} (hc : w.choose ≤ 2) (hn : w.choose_number = 30) :
    Settled w :=
  ⟨by omega, fun _ _ => hc, fun _ => hn ▸ .confirmed _⟩

theorem settled_error {fuel : ℕ} {w w' : World} (hw : w.choose ≤ 2) (hMS : w.MS = 4)
    (h : MS_thread_ERROR.exec fuel w = some w') : Settled w' := by
  obtain ⟨v, hv, h⟩ := Option.bind_eq_some_iff.mp h
  rw [exec_block_cons, exec_act, Option.bind_some] at h
  obtain ⟨v', hv', h⟩ := Option.bind_eq_some_iff.mp h
  obtain ⟨u, hu, h⟩ := Option.bind_eq_some_iff.mp h
  cases h
  have hbefore : v.choose ≤ 2 ∧ v.MS = 4 := by
    rw [exec_cond] at hv
    split at hv <;> cases hv <;> exact ⟨hw, hMS⟩
  have hkept : v'.choose ≤ 2 ∧ v'.MS = 4 := by
    rw [exec_cond] at hv'
    split at hv' <;> cases hv' <;> exact hbefore
  obtain ⟨t, ht, htc, htn⟩ := show_settings_exec fuel v'
  rw [exec_cond, ht] at hu
  split at hu <;> cases hu
  · exact settled_confirmed (htc ▸ hkept.1) htn
  · exact ⟨by have := hkept.1; exact Nat.le_succ_of_le this, fun _ _ => hkept.1,
      fun hM => by have := hM.symm.trans hkept.2; omega⟩

theorem settled_return {fuel : ℕ} {w w' : World} (hw : w.choose ≤ 2)
    (h : MS_thread_return.exec fuel w = some w') : Settled w' := by
  obtain ⟨v₀, h₀, h⟩ := Option.bind_eq_some_iff.mp h
  obtain ⟨v, hv, h⟩ := Option.bind_eq_some_iff.mp h
  rw [exec_block_cons, exec_act, Option.bind_some, exec_block_cons] at h
  obtain ⟨t, ht, htc, htn⟩ := show_settings_exec fuel v.set_MSID
  rw [ht] at h
  cases h
  have h₀w : v₀ = w := by
    rw [exec_check] at h₀
    split at h₀ <;> cases h₀
    rfl
  have hall : ∀ len, (increment len).All fun v v' => v'.choose = v.choose :=
    increment_all (fun _ _ => rfl) fun _ _ _ => rfl
  have hinc : (Prog.ite (fun w => w.choose = 1) (increment 8) (increment 6)).Keeps
      fun v => v.choose ≤ 2 :=
    All.keeps (fun _ _ he hc => le_of_eq_of_le he hc) ⟨hall 8, hall 6⟩
  have hvc : v.choose ≤ 2 := hinc.exec (h₀w ▸ hw) hv
  exact settled_confirmed (le_of_eq_of_le htc hvc) htn

theorem settled_pass {fuel : ℕ} {w w' : World} (hw : w.choose ≤ 2) (hMS : w.MS = 5)
    (h : MS_thread_pass.exec fuel w = some w') : Settled w' := by
  rw [MS_thread_pass, exec_cond] at h
  split at h
  · exact settled_return hw h
  · cases h
    exact ⟨by omega, fun _ _ => hw, by omega⟩

theorem settled_browse {fuel : ℕ} {p : Prog World} (hp : p.All Browses) {w w' : World}
    (hw : w.choose ≤ 3) (hMS : 10 ≤ w.MS) (h : p.exec fuel w = some w') : Settled w' := by
  have hkeeps : p.Keeps fun v => v.choose ≤ 3 ∧ (v.MS = 1 ∨ 10 ≤ v.MS) :=
    hp.keeps fun v v' hb hv => ⟨by rcases hb.choose with h | h <;> omega,
      by rcases hb.MS with h | h | h <;> omega⟩
  have hfinal := hkeeps.exec ⟨hw, .inr hMS⟩ h
  exact ⟨hfinal.1, by omega, by omega⟩

theorem Settled.ticked {w : World} (h : Settled w) : Settled w.ticked :=
  ⟨h.choose, h.mode, h.cursor⟩

/-- **A turn keeps the places of the cursor**, unless it is a settings turn with a key that
escapes. -/
theorem Settled.turn {fuel : ℕ} {w w' : World} (hw : Settled w)
    (hk : w.MS = 2 → ¬ Escapes w.choose w.now.button w.choose_number)
    (h : main_turn.exec fuel w = some w') : Settled w' := by
  by_cases h2 : w.MS = 2
  · have hc := hw.mode (by omega) (by omega)
    have hn := hw.cursor h2
    obtain ⟨t, ht, -, hmoves, hother⟩ := settings_turn fuel h2 hc hn
    obtain rfl : t = w' := Option.some.inj (ht.symm.trans h)
    by_cases hm : Moves w.now.button w.choose_number
    · obtain ⟨hM, htc, htn⟩ := hmoves hm
      refine ⟨by omega, fun _ _ => by omega, fun _ => ?_⟩
      rw [htc, htn]
      exact (moved_within hn hm).2 (hk h2)
    · obtain ⟨htc, hM⟩ := hother hm
      exact ⟨by omega, fun _ _ => htc, fun h => hM (.inl h)⟩
  rw [main_turn_exec] at h
  obtain ⟨v, hv, rfl⟩ := Option.map_eq_some_iff.mp h
  apply Settled.ticked
  have hcases : ∀ k, k ≠ 2 → ∀ u : World, u.MS = k → Settled u →
      (MS_function k).exec fuel u = some v → Settled v := by
    refine MS_function_cases (Q := fun k p => k ≠ 2 → ∀ u : World, u.MS = k → Settled u →
      p.exec fuel u = some v → Settled v) ?_ ?_ ?_ ?_ ?_ ?_ ?_ ?_ ?_ ?_
    · exact fun _ u _ _ h => settled_init h
    · exact fun _ u hM hu h => settled_select hu.choose hM h
    · exact fun h => absurd rfl h
    · exact fun _ u hM hu h => settled_test (hu.mode (by omega) (by omega)) hM h
    · exact fun _ u hM hu h => settled_error (hu.mode (by omega) (by omega)) hM h
    · exact fun _ u hM hu h => settled_pass (hu.mode (by omega) (by omega)) hM h
    · exact fun _ u hM hu h => settled_browse MS_thread_ax_start_browses hu.choose (by omega) h
    · exact fun _ u hM hu h => settled_browse MS_thread_ax_browses hu.choose (by omega) h
    · exact fun _ u hM hu h => settled_browse MS_thread_ax_refresh_browses hu.choose (by omega) h
    · intro _ _ u _ hu h
      cases h
      exact hu
  exact hcases w.MS h2 w.entered rfl ⟨hw.choose, hw.mode, hw.cursor⟩ hv

/-! ### Runs -/

/-- What runs next: a turn of the main loop, or the radio task with a packet. -/
inductive Task where
  | main
  | radio (rssi : ℤ) (rx_buffer : List UInt8) (rx_len : ℕ)

/-- The main loop stops at a store outside an array. -/
def Task.run : Task → World → Option World
  | main, w => main_turn.exec 0 w
  | radio rssi rx_buffer rx_len, w => some (w.rf4068_rx_callback rssi rx_buffer rx_len)

/-- The started tester, its counters read. -/
def booted (fs : Fs) (devices : ℕ → Device) : World :=
  { World.start fs devices [] with dfs := (Dfs.start fs).my_dfs_init }

/-- The state before task `n` of a schedule. -/
def state (fs : Fs) (devices : ℕ → Device) (tasks : ℕ → Task) : ℕ → Option World
  | 0 => some (booted fs devices)
  | n + 1 => (state fs devices tasks n).bind (tasks n).run

/-- A state of the settings editor: the cursor is at one of its places, and the next turn ends and
writes digit cells only, a digit key the cell under the cursor. -/
structure Safe (w : World) : Prop where
  cursor : Within w.choose w.choose_number
  turn : ∃ w', main_turn.exec 0 w = some w' ∧ Edits w w'

theorem Settled.radio {w : World} (h : Settled w) (rssi : ℤ) (rx_buffer : List UInt8)
    (rx_len : ℕ) : Settled (w.rf4068_rx_callback rssi rx_buffer rx_len) := by
  have hM : (w.rf4068_rx_callback rssi rx_buffer rx_len).MS =
      if w.MS = 11 ∧ publishes rx_buffer rx_len w.radio then 12 else w.MS :=
    MeterTester.rf4068_rx_callback_MS rssi rx_buffer rx_len w.radio w.MS
  split_ifs at hM
  · exact ⟨h.choose, fun _ _ => by omega, fun _ => by omega⟩
  · exact ⟨h.choose, fun h₂ h₅ => h.mode (hM ▸ h₂) (hM ▸ h₅), fun h₂ => h.cursor (hM ▸ h₂)⟩

section runs
variable {fs : Fs} {devices : ℕ → Device} {tasks : ℕ → Task}

theorem settled_booted : Settled (booted fs devices) :=
  ⟨by simp [booted, World.start], by simp [booted, World.start], by simp [booted, World.start]⟩

theorem settled_state (n : ℕ) (w : World) (h : state fs devices tasks n = some w)
    (hkeys : ∀ m v, m < n → state fs devices tasks m = some v → tasks m = .main → v.MS = 2 →
      ¬ Escapes v.choose v.now.button v.choose_number) : Settled w := by
  induction n generalizing w with
  | zero =>
      cases h
      exact settled_booted
  | succ n ih =>
      obtain ⟨v, hv, h⟩ := Option.bind_eq_some_iff.mp h
      have hsettled := ih v hv fun m u hm => hkeys m u (by omega)
      cases ht : tasks n with
      | main =>
          rw [ht] at h
          exact hsettled.turn (hkeys n v (by omega) hv ht) h
      | radio rssi rx_buffer rx_len =>
          rw [ht] at h
          cases h
          exact hsettled.radio rssi rx_buffer rx_len

/-- The turn with a key that escapes ends in state `2`, the cursor outside its places. -/
theorem state_escape {n : ℕ} {w : World} (hw : state fs devices tasks n = some w)
    (hsettled : Settled w) (ht : tasks n = .main) (hM : w.MS = 2)
    (hk : Escapes w.choose w.now.button w.choose_number) :
    ∃ w', state fs devices tasks (n + 1) = some w' ∧ w'.MS = 2 ∧
      ¬ Within w'.choose w'.choose_number := by
  have hn := hsettled.cursor hM
  have hmoves : Moves w.now.button w.choose_number := by
    rcases hk with ⟨hk, -, h⟩ | ⟨hk | hk, -⟩
    · exact .inl ⟨hk, by omega⟩
    · exact .inr (.inr (.inr (.inl hk)))
    · exact .inr (.inr (.inr (.inr hk)))
  obtain ⟨w', hw', -, hmoved, -⟩ :=
    settings_turn 0 hM (hsettled.mode (by omega) (by omega)) hn
  obtain ⟨hM', hc, hn'⟩ := hmoved hmoves
  refine ⟨w', ?_, hM', ?_⟩
  · rw [state, hw, Option.bind_some, ht]
    exact hw'
  · rw [hc, hn', moved_within hn hmoves]
    exact not_not_intro hk

/-- **The cursor of the settings editor**: along a run every settings turn is safe exactly when no
such turn starts with a digit key in the mode of the long serials and the cursor in the last column
of the reading or the time, nor with LEFT or RIGHT and the cursor on `30`. -/
theorem cursor_safe_iff (fs : Fs) (devices : ℕ → Device) (tasks : ℕ → Task) :
    (∀ n w, state fs devices tasks n = some w → w.MS = 2 → Safe w) ↔
      ∀ n w, state fs devices tasks n = some w → tasks n = .main → w.MS = 2 →
        ¬ Escapes w.choose w.now.button w.choose_number := by
  constructor
  · intro hsafe n
    -- the first key that escapes would leave an unsafe state
    induction n using Nat.strong_induction_on with
    | _ n ih =>
        intro w hw ht hM hk
        obtain ⟨w', hw', hM', hn⟩ :=
          state_escape hw (settled_state n w hw fun m v hm => ih m hm v) ht hM hk
        exact hn (hsafe (n + 1) w' hw' hM').cursor
  · intro hkeys n w hw hM
    have hsettled := settled_state n w hw fun m v _ => hkeys m v
    have hn := hsettled.cursor hM
    obtain ⟨w', hw', hedits, -⟩ := settings_turn 0 hM (hsettled.mode (by omega) (by omega)) hn
    exact ⟨hn, w', hw', hedits⟩

end runs

/-- The keys of successive moments, then none; the pins are high and the clock stands. -/
def keypad (keys : List ℕ) (n : ℕ) : Device where
  button := keys.getD n 16
  pin := fun _ => true
  get_time := Vector.replicate 7 0
  get_date := Vector.replicate 7 0
  uart_flag := 0
  uart_data := 0

/-- DOWN and OK enter the mode of the long serials, DOWN and LEFT the last digit of the reading;
then two digits.  In two of the moments the clock is read. -/
def wrap_keys : List ℕ :=
  [16, BUTTON_DOWN, BUTTON_OK, 16, BUTTON_DOWN, BUTTON_LEFT, 16, 0, 16, 0]

/-- The first digit leaves the cursor on `16`; the second would be stored behind `zf_list7`. -/
theorem not_cursor_safe_wrap :
    (state Fs.empty (keypad wrap_keys) (fun _ => .main) 7).isNone ∧
      ¬ ∀ n w, state Fs.empty (keypad wrap_keys) (fun _ => .main) n = some w → w.MS = 2 →
        Safe w := by
  refine ⟨by decide +kernel, fun h => ?_⟩
  have hstate : (state Fs.empty (keypad wrap_keys) (fun _ => .main) 6).map
      (fun w => (w.MS, w.choose, w.choose_number)) = some (2, 1, 16) := by decide +kernel
  obtain ⟨w, hw, he⟩ := Option.map_eq_some_iff.mp hstate
  simp only [Prod.mk.injEq] at he
  obtain ⟨hM, hc, hn⟩ := he
  have hwithin := (h 6 w hw hM).cursor
  rw [hc, hn] at hwithin
  exact absurd hwithin (by decide)

end MeterTester
