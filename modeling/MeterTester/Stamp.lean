import MeterTester.ClockSet
import MeterTester.Since

/-! # The stamp of a radio record: `my_time` between the clock, the editor and the packets

`my_time` shows the clock, takes the digits of the editor of the date, and stamps the records.  The
clock is read when the log is entered, with the blinking while records are shown, and behind every
packet (`Reads`).

The turn of a packet asks nobody: it stamps its record with whatever `my_time` holds, and then reads
the clock over it.  `stamped_iff`: along a run the stamps come from the clock and the digits of an
edit stay exactly if no packet is handled between a turn that alters the date (`Alters`) and the
next one that reads the clock, nor during an edit unless the clock shows just what is edited. -/

namespace MeterTester

open Interleave Interleave.Prog World Dfs Moments

/-! ### The turns of the radio log and `my_time` -/

namespace World

/-- What the clock shows to a turn of the radio log; the key is read before. -/
def reading (w : World) : Vector UInt8 7 := (w.devices 1).get_date

/-- The turn reads the clock. -/
def Reads (w : World) : Prop :=
  w.MS = 10 ∨ w.MS = 12 ∨ (w.MS = 11 ∧ w.thread_time % 10 = 0 ∧ w.time_number = 20)

/-- The turn alters the date that is edited: a digit is typed, or OK cuts a field. -/
def Alters (w : World) : Prop :=
  w.MS = 11 ∧ ((w.now.button < 10 ∧ w.time_number < 12) ∨
    (w.now.button = BUTTON_OK ∧ w.time_number ≠ 20 ∧ ok_time w.my_time ≠ w.my_time))

/-- No turn does both. -/
theorem Reads.not_alters {w : World} (h : w.Reads) : ¬ w.Alters := by
  rintro ⟨hM, ht⟩
  rcases h with h | h | ⟨-, -, h⟩
  · omega
  · omega
  · omega

section my_time
variable (w : World)

@[simp] theorem browsed_my_time (addr : ℕ) : (w.browsed addr).my_time = w.my_time := rfl

@[simp] theorem browsed_log (addr : ℕ) : (w.browsed addr).log = w.log := rfl

theorem back_pressed_kept :
    w.back_pressed.my_time = w.my_time ∧ w.back_pressed.log = w.log := by
  unfold back_pressed
  split_ifs <;> exact ⟨rfl, rfl⟩

theorem forward_pressed_kept :
    w.forward_pressed.my_time = w.my_time ∧ w.forward_pressed.log = w.log := by
  unfold forward_pressed
  split_ifs <;> exact ⟨rfl, rfl⟩

theorem return_pressed_kept :
    w.return_pressed.my_time = w.my_time ∧ w.return_pressed.log = w.log := by
  unfold return_pressed
  split_ifs <;> exact ⟨rfl, rfl⟩

/-- The keys other than digits and OK leave the date alone. -/
theorem ax_key_kept (hdigit : ¬ (w.button_number < 10 ∧ w.time_number < 12))
    (hok : ¬ (w.button_number = BUTTON_OK ∧ w.time_number ≠ 20)) :
    w.ax_key.my_time = w.my_time ∧ w.ax_key.log = w.log := by
  unfold ax_key
  split_ifs with h₁ h₂ h₃ h₄ h₅
  · rw [digit_pressed, if_neg fun ht => hdigit ⟨h₁, ht⟩]
    exact ⟨rfl, rfl⟩
  · exact w.back_pressed_kept
  · exact w.forward_pressed_kept
  · have ht : w.time_number = 20 := by
      by_contra ht
      exact hok ⟨h₄, ht⟩
    rw [ok_pressed, if_pos ht]
    exact ⟨rfl, rfl⟩
  · exact w.return_pressed_kept
  · exact ⟨rfl, rfl⟩

@[simp] theorem date_moved_my_time (t : ℕ) : (w.date_moved t).my_time = w.my_time := rfl

theorem ok_pressed_my_time (h : w.time_number ≠ 20) :
    w.ok_pressed.my_time = ok_time w.my_time := by
  rw [ok_pressed, if_neg h, date_moved_my_time, clock_sent_my_time]

end my_time

end World

theorem ax_key_ok {w : World} (h : w.button_number = BUTTON_OK) : w.ax_key = w.ok_pressed := by
  simp [ax_key, h, BUTTON_OK, BUTTON_UP, BUTTON_LEFT, BUTTON_DOWN, BUTTON_RIGHT]

/-- The date behind the blinking. -/
theorem date_blinked_my_time (w : World) : w.date_blinked.my_time =
    if w.thread_time % 10 = 0 ∧ w.time_number = 20 then w.now.get_date else w.my_time := by
  unfold date_blinked
  by_cases ht : w.thread_time % 10 = 0
  · by_cases hd : w.time_number = 20
    · rw [if_pos ht, if_pos hd, if_pos ⟨ht, hd⟩]
      rfl
    · rw [if_pos ht, if_neg hd, if_neg fun h => hd h.2]
  · rw [if_neg ht, if_neg fun h => ht h.1]

theorem date_blinked_cursor (w : World) : w.date_blinked.time_number = w.time_number ∧
    w.date_blinked.button_number = w.button_number := by
  unfold date_blinked
  split_ifs <;> exact ⟨rfl, rfl⟩

section turns
variable {w w' : World}

/-- **A turn in state `11`** leaves the clock's date or the date it found, unless it alters it. -/
theorem ax_turn_my_time (hM : w.MS = 11) (h : Task.main.go w = some w') (ha : ¬ w.Alters) :
    w'.my_time = if w.thread_time % 10 = 0 ∧ w.time_number = 20 then w.reading else w.my_time := by
  rw [ax_turn hM] at h
  obtain rfl := Option.some.inj h
  obtain ⟨ht, hb⟩ := date_blinked_cursor w.entered
  have hdigit : ¬ (w.now.button < 10 ∧ w.time_number < 12) := fun hd => ha ⟨hM, .inl hd⟩
  by_cases hok : w.now.button = BUTTON_OK ∧ w.time_number ≠ 20
  · have hmy : w.entered.date_blinked.my_time = w.my_time := (date_blinked_other (w := w.entered) hok.2).1
    have hcut : ok_time w.my_time = w.my_time := by
      by_contra hne
      exact ha ⟨hM, .inr ⟨hok.1, hok.2, hne⟩⟩
    rw [if_neg fun hc => hok.2 hc.2, ax_key_ok (hb.trans hok.1)]
    have hpressed := ok_pressed_my_time w.entered.date_blinked (by rw [ht]; exact hok.2)
    rw [hmy, hcut] at hpressed
    exact hpressed
  · have hkept := (ax_key_kept w.entered.date_blinked (by rw [ht, hb]; exact hdigit)
      (by rw [ht, hb]; exact hok)).1
    exact hkept.trans (date_blinked_my_time w.entered)

theorem ax_start_turn_my_time (hM : w.MS = 10) (h : Task.main.go w = some w') :
    w'.my_time = w.reading := by
  rw [ax_start_turn hM] at h
  obtain rfl := Option.some.inj h
  show w.entered.log_shown.my_time = w.reading
  unfold log_shown
  split_ifs <;> rfl

theorem ax_refresh_turn_my_time (hM : w.MS = 12) (h : Task.main.go w = some w') :
    w'.my_time = w.reading := by
  rw [ax_refresh_turn hM] at h
  obtain rfl := Option.some.inj h
  rfl

end turns

/-! ### The records of a turn -/

/-- The history has grown, by no radio record. -/
def Unstamped (w w' : World) : Prop :=
  ∃ new, w'.log = new ++ w.log ∧ ∀ t record, Event.set_ax_record t record ∉ new

section unstamped
variable {w w' w'' : World}

theorem Unstamped.of_log_eq (h : w'.log = w.log) : Unstamped w w' :=
  ⟨[], h, fun _ _ => List.not_mem_nil⟩

theorem Unstamped.trans (h : Unstamped w w') (h' : Unstamped w' w'') : Unstamped w w'' := by
  obtain ⟨new, hl, hn⟩ := h
  obtain ⟨new', hl', hn'⟩ := h'
  refine ⟨new' ++ new, by rw [hl', hl, List.append_assoc], fun t record he => ?_⟩
  rcases List.mem_append.mp he with he | he
  · exact hn' t record he
  · exact hn t record he

theorem Unstamped.of_event {e : Event} (he : ∀ t record, e ≠ .set_ax_record t record)
    (h : w'.log = e :: w.log) : Unstamped w w' :=
  ⟨[e], h, fun t record hm => he t record (List.mem_singleton.mp hm).symm⟩

theorem new_calls_eq {new : List Event} (h : w'.log = new ++ w.log) : new_calls w w' = new := by
  rw [new_calls, h, List.length_append, Nat.add_sub_cancel, List.take_left]

theorem Unstamped.not_mem (h : Unstamped w w') (t : Vector UInt8 7) (record : List UInt8) :
    Event.set_ax_record t record ∉ new_calls w w' := by
  obtain ⟨new, hl, hn⟩ := h
  rw [new_calls_eq hl]
  exact hn t record

theorem entered_unstamped (w : World) : Unstamped w w.entered :=
  .of_event (fun _ _ he => by cases he) rfl

theorem Quietly.unstamped (h : Quietly w w') : Unstamped w w' := by
  rcases h.log with hl | ⟨e, he, hl⟩
  · exact .of_log_eq hl
  · refine .of_event (fun t record heq => ?_) hl
    rw [heq] at he
    exact he

/-- The functions outside the radio log. -/
theorem functions_quietly : ∀ k, k ≠ 10 → k ≠ 11 → k ≠ 12 → (MS_function k).All Quietly :=
  MS_function_cases (Q := fun k p => k ≠ 10 → k ≠ 11 → k ≠ 12 → p.All Quietly)
    (fun _ _ _ => MS_thread_init_quietly) (fun _ _ _ => all_quietly MS_thread_SelectMode_plain)
    (fun _ _ _ => MS_thread_SettingMs_quietly) (fun _ _ _ => MS_thread_test_quietly)
    (fun _ _ _ => all_quietly MS_thread_ERROR_plain) (fun _ _ _ => MS_thread_pass_quietly)
    (fun h => absurd rfl h) (fun _ h => absurd rfl h) (fun _ _ h => absurd rfl h)
    fun _ _ _ _ => trivial

/-- Outside the radio log nothing is stamped, and the way into its states `11` and `12` is closed. -/
theorem other_turn_quiet (h₁₀ : w.MS ≠ 10) (h₁₁ : w.MS ≠ 11) (h₁₂ : w.MS ≠ 12)
    (h : Task.main.go w = some w') : Unstamped w w' ∧ w'.MS ≠ 11 ∧ w'.MS ≠ 12 := by
  rw [Task.go, main_turn_go] at h
  obtain ⟨v, hv, rfl⟩ := Option.map_eq_some_iff.mp h
  have hkeeps : (MS_function w.MS).Keeps fun u =>
      Unstamped w.entered u ∧ u.MS ≠ 11 ∧ u.MS ≠ 12 := by
    apply (functions_quietly w.MS h₁₀ h₁₁ h₁₂).keeps
    intro u u' hq hu
    refine ⟨hu.1.trans hq.unstamped, ?_⟩
    rcases hq.MS with hM | hM
    · rw [hM]
      exact hu.2
    · exact hM
  obtain ⟨hlog, hM⟩ := (Keeps.unchecked hkeeps).exec ⟨.of_log_eq rfl, h₁₁, h₁₂⟩ hv
  exact ⟨(entered_unstamped w).trans hlog, hM⟩

theorem ok_pressed_unstamped (w : World) : Unstamped w w.ok_pressed := by
  unfold ok_pressed
  split_ifs
  · exact .of_log_eq rfl
  · refine ⟨ok_calls w.my_time, rfl, fun t record he => ?_⟩
    rcases List.mem_pair.mp he with he | he <;> cases he

theorem ax_key_unstamped (w : World) : Unstamped w w.ax_key := by
  by_cases hok : w.button_number = BUTTON_OK
  · rw [ax_key_ok hok]
    exact ok_pressed_unstamped w
  · by_cases hdigit : w.button_number < 10 ∧ w.time_number < 12
    · rw [ax_key, if_pos hdigit.1, digit_pressed, if_pos hdigit.2]
      exact .of_log_eq rfl
    · exact .of_log_eq (ax_key_kept w hdigit fun h => hok h.1).2

/-- Only the turn of a packet stamps a record. -/
theorem turn_unstamped (h₁₂ : w.MS ≠ 12) (h : Task.main.go w = some w') : Unstamped w w' := by
  by_cases h₁₀ : w.MS = 10
  · rw [ax_start_turn h₁₀] at h
    obtain rfl := Option.some.inj h
    refine (entered_unstamped w).trans (.of_log_eq ?_)
    show w.entered.log_shown.log = w.entered.log
    unfold log_shown
    split_ifs <;> rfl
  by_cases h₁₁ : w.MS = 11
  · rw [ax_turn h₁₁] at h
    obtain rfl := Option.some.inj h
    have hblink : Unstamped w.entered w.entered.date_blinked := by
      unfold date_blinked
      split_ifs <;> exact .of_log_eq rfl
    exact ((entered_unstamped w).trans hblink).trans (ax_key_unstamped _)
  · exact (other_turn_quiet h₁₀ h₁₁ h₁₂ h).1

/-- The record of the decoder with the time `t`. -/
def stamped_record (w : World) (t : Vector UInt8 7) : List UInt8 :=
  ax_record w.radio.v w.radio.Controllable_Ms_flag w.radio.msid w.radio.msv t (rssi16 w.radio)

theorem packet_stored_log (w : World) : w.packet_stored.log =
    if (w.dfs.fs.openFile .AX_record true).1
    then .set_ax_record w.my_time (stamped_record w w.my_time) :: w.log else w.log := by
  simp only [packet_stored, World.set_Record_txt, World.set_ax_record, call_file, stamped_record]

theorem packet_handled_log (w : World) : w.packet_handled.log = w.packet_stored.log := by
  simp only [packet_handled, packet_shown, show_ax_data, get_date, tick]

/-- **The turn of a packet** stamps one record, if the file opens. -/
theorem packet_turn_stamps (hM : w.MS = 12) (h : Task.main.go w = some w') (t : Vector UInt8 7)
    (record : List UInt8) : Event.set_ax_record t record ∈ new_calls w w' ↔
      (w.dfs.fs.openFile .AX_record true).1 ∧ t = w.my_time ∧
        record = stamped_record w w.my_time := by
  rw [ax_refresh_turn hM] at h
  obtain rfl := Option.some.inj h
  have hlog := (packet_handled_log w.entered).trans (packet_stored_log w.entered)
  by_cases ho : (w.dfs.fs.openFile .AX_record true).1
  · rw [if_pos (show (w.entered.dfs.fs.openFile .AX_record true).1 from ho)] at hlog
    have hnew : new_calls w w.entered.packet_handled.ticked =
        [.set_ax_record w.my_time (stamped_record w w.my_time),
          .switch w.MS w.now.button w.choose_number w.time_number] := new_calls_eq hlog
    simp [hnew, ho]
  · rw [if_neg (show ¬ (w.entered.dfs.fs.openFile .AX_record true).1 from ho)] at hlog
    have hnew : new_calls w w.entered.packet_handled.ticked =
        [.switch w.MS w.now.button w.choose_number w.time_number] := new_calls_eq hlog
    simp [hnew, ho]

/-- A packet hands over, and leaves the rest alone. -/
theorem radio_task_kept {rssi : ℤ} {rx_buffer : List UInt8} {rx_len : ℕ}
    (h : (Task.radio rssi rx_buffer rx_len).go w = some w') :
    Unstamped w w' ∧ w'.my_time = w.my_time ∧ (w'.MS = w.MS ∨ (w.MS = 11 ∧ w'.MS = 12)) := by
  obtain rfl := Option.some.inj h
  rcases radio_cases w rssi rx_buffer rx_len with ⟨hM, -, r, heq⟩ | ⟨-, r, heq, -⟩ <;> rw [heq]
  · exact ⟨.of_event (fun _ _ he => by cases he) rfl, rfl, .inr ⟨hM, rfl⟩⟩
  · exact ⟨.of_log_eq rfl, rfl, .inl rfl⟩

end unstamped

/-! ### Runs -/

/-- The date and the time agree; the weekday is not edited. -/
def SameDate (t t' : Vector UInt8 7) : Prop := ∀ i : Fin 7, i ≠ 3 →
  getElem t i (register_lt i) = getElem t' i (register_lt i)

instance (t t' : Vector UInt8 7) : Decidable (SameDate t t') := by unfold SameDate; infer_instance

section runs
variable (fs : Fs) (devices : ℕ → Device) (tasks : ℕ → Task)

/-- Task `k` of the run is a turn that begins in a state with `P`. -/
def TurnWith (P : World → Prop) (k : ℕ) : Prop :=
  tasks k = .main ∧ ∃ w, state_of fs devices tasks k = some w ∧ P w

/-- `t` is what the clock showed to a turn before task `n`, and no turn has altered the date since. -/
def FromClock (n : ℕ) (t : Vector UInt8 7) : Prop :=
  Since (TurnWith fs devices tasks fun w => w.Reads ∧ w.reading = t)
    (TurnWith fs devices tasks World.Alters) n

/-- The date has been altered before task `n`, and no turn has read the clock since. -/
def Altered (n : ℕ) : Prop :=
  Since (TurnWith fs devices tasks World.Alters) (TurnWith fs devices tasks World.Reads) n

/-- Task `n` stamps a record with what has come from the clock, and keeps an edit from a packet. -/
structure KeptApart (n : ℕ) (w w' : World) : Prop where
  stamp : ∀ t record, Event.set_ax_record t record ∈ new_calls w w' →
    record = stamped_record w t ∧ FromClock fs devices tasks n t
  edit : tasks n = .main → w.MS = 12 → w.time_number < 12 → SameDate w'.my_time w.my_time

/-- A packet that is handled in the turn `n` disturbs nothing: its record cannot be written or the
date is the clock's, and the clock shows what is edited. -/
structure Undisturbed (n : ℕ) (w : World) : Prop where
  date : (w.dfs.fs.openFile .AX_record true).1 → ¬ Altered fs devices tasks n
  edit : w.time_number < 12 → SameDate w.reading w.my_time

variable {fs devices tasks}

theorem turnWith_iff {P : World → Prop} {k : ℕ} {w : World}
    (h : state_of fs devices tasks k = some w) :
    TurnWith fs devices tasks P k ↔ tasks k = .main ∧ P w := by
  unfold TurnWith
  rw [h]
  simp only [Option.some.injEq, exists_eq_left']

/-- **In the radio log** `my_time` is what came from the clock last, or has been altered since. -/
theorem fromClock_or_altered : ∀ {n : ℕ} {w : World}, state_of fs devices tasks n = some w →
    w.MS = 11 ∨ w.MS = 12 →
      FromClock fs devices tasks n w.my_time ∨ Altered fs devices tasks n
  | 0, w, hw, hM => by
      obtain rfl := Option.some.inj hw
      have h₀ : (booted fs devices).MS = 0 := rfl
      omega
  | n + 1, w, hw, hM => by
      obtain ⟨v, hv, -⟩ := Option.bind_eq_some_iff.mp hw
      rw [state_of_succ hv] at hw
      have hread : tasks n = .main → v.Reads → w.my_time = v.reading →
          FromClock fs devices tasks (n + 1) w.my_time ∨ Altered fs devices tasks (n + 1) :=
        fun ht hr heq => .inl (.now ((turnWith_iff hv).mpr ⟨ht, hr, heq.symm⟩))
      have hkeep : (v.MS = 11 ∨ v.MS = 12) → w.my_time = v.my_time →
          ¬ TurnWith fs devices tasks World.Alters n → ¬ TurnWith fs devices tasks World.Reads n →
          FromClock fs devices tasks (n + 1) w.my_time ∨ Altered fs devices tasks (n + 1) := by
        intro hvM heq ha hr
        rw [heq]
        exact (fromClock_or_altered hv hvM).imp (fun h => h.keep ha) fun h => h.keep hr
      cases ht : tasks n with
      | radio rssi rx_buffer rx_len =>
          rw [ht] at hw
          obtain ⟨-, hmy, hMS⟩ := radio_task_kept hw
          have hno : ∀ P, ¬ TurnWith fs devices tasks P n := fun P h => by
            rw [TurnWith, ht] at h
            cases h.1
          exact hkeep (by omega) hmy (hno _) (hno _)
      | main =>
          rw [ht] at hw
          by_cases h₁₀ : v.MS = 10
          · exact hread ht (.inl h₁₀) (ax_start_turn_my_time h₁₀ hw)
          by_cases h₁₂ : v.MS = 12
          · exact hread ht (.inr (.inl h₁₂)) (ax_refresh_turn_my_time h₁₂ hw)
          by_cases h₁₁ : v.MS = 11
          · by_cases ha : v.Alters
            · exact .inr (.now ((turnWith_iff hv).mpr ⟨ht, ha⟩))
            · have hmy := ax_turn_my_time h₁₁ hw ha
              by_cases hc : v.thread_time % 10 = 0 ∧ v.time_number = 20
              · rw [if_pos hc] at hmy
                exact hread ht (.inr (.inr ⟨h₁₁, hc⟩)) hmy
              · rw [if_neg hc] at hmy
                apply hkeep (.inl h₁₁) hmy (fun h => ha ((turnWith_iff hv).mp h).2)
                intro h
                rcases ((turnWith_iff hv).mp h).2 with hr | hr | hr
                · exact h₁₀ hr
                · exact h₁₂ hr
                · exact hc hr.2
          · have hquiet := (other_turn_quiet h₁₀ h₁₁ h₁₂ hw).2
            omega

theorem FromClock.not_altered {n : ℕ} {t : Vector UInt8 7} (h : FromClock fs devices tasks n t) :
    ¬ Altered fs devices tasks n := by
  have hread : Since (TurnWith fs devices tasks World.Reads) (TurnWith fs devices tasks World.Alters)
      n := h.mono fun _ hk => ⟨hk.1, hk.2.imp fun _ hw => ⟨hw.1, hw.2.1⟩⟩
  apply hread.not_since
  intro k hk ha
  obtain ⟨ht, w, hw, hr⟩ := hk
  exact hr.not_alters ((turnWith_iff hw).mp ha).2

/-- One task. -/
theorem keptApart_iff {n : ℕ} {w w' : World} (hw : state_of fs devices tasks n = some w)
    (h : (tasks n).go w = some w') : KeptApart fs devices tasks n w w' ↔
      (tasks n = .main → w.MS = 12 → Undisturbed fs devices tasks n w) := by
  by_cases hp : tasks n = .main ∧ w.MS = 12
  · obtain ⟨ht, hM⟩ := hp
    rw [ht] at h
    have hmem := packet_turn_stamps hM h
    have hmy := ax_refresh_turn_my_time hM h
    constructor
    · intro hk _ _
      refine ⟨fun ho => ?_, fun he => ?_⟩
      · exact (hk.stamp _ _ ((hmem _ _).mpr ⟨ho, rfl, rfl⟩)).2.not_altered
      · rw [← hmy]
        exact hk.edit ht hM he
    · intro hu
      obtain ⟨hdate, hedit⟩ := hu ht hM
      refine ⟨fun t record he => ?_, fun _ _ he => ?_⟩
      · obtain ⟨ho, hmy', hrecord⟩ := (hmem t record).mp he
        rw [hrecord, hmy']
        exact ⟨rfl, (fromClock_or_altered hw (.inr hM)).resolve_right (hdate ho)⟩
      · rw [hmy]
        exact hedit he
  · refine iff_of_true ⟨fun t record he => ?_, fun ht hM => absurd ⟨ht, hM⟩ hp⟩
      fun ht hM => absurd ⟨ht, hM⟩ hp
    cases ht : tasks n with
    | main =>
        rw [ht] at h
        exact absurd he ((turn_unstamped (fun hM => hp ⟨ht, hM⟩) h).not_mem t record)
    | radio rssi rx_buffer rx_len =>
        rw [ht] at h
        exact absurd he ((radio_task_kept h).1.not_mem t record)

end runs

/-- **Packets and the editor of the date keep out of each other's way** along a run whose packets
are all handled undisturbed, and only along such a run: every record is stamped with what came from
the clock, unaltered, and no packet changes the digits of an edit. -/
theorem stamped_iff (fs : Fs) (devices : ℕ → Device) (tasks : ℕ → Task) (n : ℕ) :
    (∀ m < n, ∀ w w', state_of fs devices tasks m = some w →
        state_of fs devices tasks (m + 1) = some w' → KeptApart fs devices tasks m w w') ↔
      ∀ m < n, ∀ w, state_of fs devices tasks m = some w → tasks m = .main → w.MS = 12 →
        Undisturbed fs devices tasks m w := by
  constructor
  · intro hk m hm w hw ht hM
    have hgo : (tasks m).go w = some w.entered.packet_handled.ticked := by
      rw [ht]
      exact ax_refresh_turn hM
    exact (keptApart_iff hw hgo).mp (hk m hm w _ hw ((state_of_succ hw).trans hgo)) ht hM
  · intro hu m hm w w' hw hw'
    rw [state_of_succ hw] at hw'
    exact (keptApart_iff hw hw').mpr (hu m hm w hw)

/-- OK opens the editor of the date in the radio log, and the tens of the year become `1`. -/
def year_keys : List ℕ := [16, BUTTON_UP, BUTTON_OK, 16, 16, BUTTON_OK, 1]

/-- Six turns, a packet, and its turn. -/
def packet_in_edit : ℕ → Task :=
  schedule [.main, .main, .main, .main, .main, .main, .radio (-70) packet 16]

/-- The dates in the stamps of the history, newest first. -/
def stamps (w : World) : List (List UInt8) :=
  w.log.filterMap fun
    | .set_ax_record t _ => some t.toList
    | _ => none

/-- The clock stands in the year `25`.  A packet that comes behind the first digit of the edit is
stamped with the year `15`, and the digit is lost. -/
theorem not_stamped :
    (state_of Fs.empty (clocked year_keys) packet_in_edit 7).map
        (fun w => (w.my_time.toList, w.time_number)) = some ([8, 30, 12, 0, 24, 6, 15], 1) ∧
      (state_of Fs.empty (clocked year_keys) packet_in_edit 8).map
        (fun w => (w.my_time.toList, stamps w)) =
          some ([8, 30, 12, 0, 24, 6, 25], [[8, 30, 12, 0, 24, 6, 15]]) ∧
      ¬ ∀ (fs : Fs) (devices : ℕ → Device) (tasks : ℕ → Task) (n : ℕ) (w w' : World),
        state_of fs devices tasks n = some w → state_of fs devices tasks (n + 1) = some w' →
          KeptApart fs devices tasks n w w' := by
  have hbefore : (state_of Fs.empty (clocked year_keys) packet_in_edit 7).map
      (fun w => (w.my_time.toList, w.MS, w.time_number)) =
        some ([8, 30, 12, 0, 24, 6, 15], 12, 1) := by decide +kernel
  have hbehind : (state_of Fs.empty (clocked year_keys) packet_in_edit 8).map
      (fun w => (w.my_time.toList, stamps w)) =
        some ([8, 30, 12, 0, 24, 6, 25], [[8, 30, 12, 0, 24, 6, 15]]) := by decide +kernel
  obtain ⟨w, hw, heq⟩ := Option.map_eq_some_iff.mp hbefore
  obtain ⟨w', hw', heq'⟩ := Option.map_eq_some_iff.mp hbehind
  simp only [Prod.mk.injEq] at heq heq'
  obtain ⟨hmy, hM, ht⟩ := heq
  refine ⟨?_, hbehind, fun hall => ?_⟩
  · rw [hw, Option.map_some, hmy, ht]
  · have hsame := (hall _ _ _ 7 w w' hw hw').edit rfl hM (by omega) 6 (by decide)
    have h₁ : w'.my_time.toList[6]? = some w'.my_time[6] := by simp
    have h₂ : w.my_time.toList[6]? = some w.my_time[6] := by simp
    rw [heq'.1] at h₁
    rw [hmy] at h₂
    have hyears : (25 : UInt8) = 15 :=
      (Option.some.inj h₁).trans (hsame.trans (Option.some.inj h₂).symm)
    exact absurd hyears (by decide)

end MeterTester
