import MeterTester.Serial

/-! # The states of the tester: `main.c`

Ten functions assign `MS`, `choose` and `time_number`, and the radio task may raise `MS` between any
two of their statements.  `Mode` is the relation of the three that holds before every turn:
`MS` is one of nine states, the serials are chosen by `choose ≤ 2` in the states of the meters, and
in the radio log `time_number` is a digit of the date or `20`.

`mode_machine` proves it for every interleaving, with what follows for the arrays: whenever the
source evaluates `zf_list6[choose]` (`Indexes`) the index is in bounds, and the editor of the date
writes six bytes of `my_time`.  The guards of the model that stop a run before a store outside an
array are passed unseen (`Prog.unchecked`): such a store changes none of the variables here. -/

namespace MeterTester

open Interleave Interleave.Prog World

/-! ### The invariant -/

/-- The places of the cursor of the date: one of twelve digits, or `20` while records are shown. -/
def DatePlace (time_number : ℕ) : Prop := time_number ≤ 11 ∨ time_number = 20

/-- The states of the tester, and what goes with them before a turn. -/
structure Mode (w : World) : Prop where
  MS : w.MS ∈ [0, 1, 2, 3, 4, 5, 10, 11, 12]
  choose : w.choose ≤ 3
  meter : w.MS ∈ [2, 3, 4, 5] → w.choose ≤ 2
  date : w.MS ∈ [11, 12] → DatePlace w.time_number

/-- The moments at which the source may evaluate `zf_list6[choose]`: in the functions of the states
`2` to `5`, and in the choice of the mode behind OK unless the radio log is chosen. -/
def Indexes (w : World) : Prop :=
  w.selector ∈ [2, 3, 4, 5] ∨ (w.selector = 1 ∧ w.MS = 2 ∧ w.choose ≠ 3)

/-- What holds at every moment. -/
structure Bounded (w : World) : Prop where
  list : Indexes w → w.choose ≤ 2
  date : w.selector = 11 → DatePlace w.time_number

/-- A statement of the date editor: the clock is read, or at most one byte of the date or the time
is written. -/
def EditsDate (w w' : World) : Prop :=
  w' = w.get_date ∨ ∃ i ∈ [0, 1, 2, 4, 5, 6], ∀ j, j ≠ i → w'.my_time[j]? = w.my_time[j]?

/-- Under the cursor is a byte of the date or the time. -/
theorem time_addr_mem {t : ℕ} (h : t < 12) : time_addr t ∈ [0, 1, 2, 4, 5, 6] := by
  revert t
  decide

/-! ### The editor of the date -/

section date
variable {w : World}

theorem edits_date_plain {w' : World} (h : w'.my_time = w.my_time := by exact rfl) :
    EditsDate w w' := .inr ⟨0, by decide, fun _ _ => by rw [h]⟩

theorem edits_date_set {i : Fin 7} (hi : i.1 ∈ [0, 1, 2, 4, 5, 6]) (v : UInt8) :
    EditsDate w { w with my_time := w.my_time.set i v (register_lt i) } :=
  .inr ⟨i, hi, fun j hj => by simp [Ne.symm hj]⟩

theorem clamp_edits_date (i j : Fin 7) (max : UInt8) (hj : j.1 ∈ [0, 1, 2, 4, 5, 6]) :
    (clamp i j max).All EditsDate := ⟨fun _ => edits_date_set hj max, trivial⟩

theorem set_time_digit_edits_date : EditsDate w (set_time_digit w) := by
  have hmem : time_addr w.time_number ∈ [0, 1, 2, 4, 5, 6] := by
    by_cases h : w.time_number < 12
    · exact time_addr_mem h
    · rw [time_addr, if_neg (by omega), show 5 - w.time_number / 2 = 0 by omega]
      decide
  exact .inr ⟨_, hmem, fun j hj => by simp [set_time_digit, Ne.symm hj]⟩

theorem MS_thread_ax_edits_date : MS_thread_ax.All EditsDate := by
  have hshow : ∀ addr : World → ℕ, (show_ax_record addr).All EditsDate := fun addr =>
    ⟨fun _ => edits_date_plain, fun _ => edits_date_plain, trivial⟩
  have hredraw : redraw_date.All EditsDate := fun _ => edits_date_plain
  have hblink : blink_date.All EditsDate :=
    ⟨⟨fun _ => edits_date_plain, ⟨fun _ => .inl rfl, trivial⟩, trivial⟩, trivial⟩
  have hdigit : ax_digit_key.All EditsDate :=
    ⟨fun _ => set_time_digit_edits_date, fun _ => edits_date_plain, hredraw, trivial⟩
  have hback : ax_back_key.All EditsDate :=
    ⟨⟨⟨⟨fun _ => edits_date_plain, trivial, fun _ => edits_date_plain, trivial⟩, hshow _, trivial⟩,
      trivial⟩, fun _ => edits_date_plain, hredraw, trivial⟩
  have hforward : ax_forward_key.All EditsDate :=
    ⟨⟨⟨fun _ => edits_date_plain, trivial, fun _ => edits_date_plain, hshow _, trivial⟩, trivial⟩,
      fun _ => edits_date_plain, hredraw, trivial⟩
  have hok : ax_ok_key.All EditsDate :=
    ⟨⟨fun _ => edits_date_plain, hredraw, trivial⟩,
      clamp_edits_date 5 5 12 (by decide), clamp_edits_date 4 4 31 (by decide),
      fun _ => edits_date_plain, clamp_edits_date 2 2 23 (by decide),
      clamp_edits_date 1 1 59 (by decide), clamp_edits_date 0 0 59 (by decide),
      fun _ => edits_date_plain, fun _ => edits_date_plain, hredraw, trivial⟩
  have hreturn : ax_return_key.All EditsDate :=
    ⟨fun _ => edits_date_plain, fun _ => edits_date_plain, fun _ => edits_date_plain, trivial⟩
  exact ⟨hblink, ⟨⟨⟨hdigit, trivial⟩, ⟨hback, trivial⟩, ⟨hforward, trivial⟩, ⟨hok, trivial⟩,
    ⟨hreturn, trivial⟩, trivial⟩, trivial⟩, trivial⟩

end date

/-! ### The radio task -/

/-- The radio task raises `MS` from `11` to `12` and leaves the rest of the mode alone. -/
theorem radio_mode {w w' : World} (h : RadioTask AnyPacket w w') :
    (w'.MS = w.MS ∨ (w.MS = 11 ∧ w'.MS = 12)) ∧ w'.choose = w.choose ∧
      w'.time_number = w.time_number ∧ w'.selector = w.selector := by
  cases h with
  | @rx rssi rx_buffer rx_len _ =>
      refine ⟨?_, rfl, rfl, rfl⟩
      have hM : (w.rf4068_rx_callback rssi rx_buffer rx_len).MS =
          if w.MS = 11 ∧ publishes rx_buffer rx_len w.radio then 12 else w.MS :=
        MeterTester.rf4068_rx_callback_MS rssi rx_buffer rx_len w.radio w.MS
      split_ifs at hM with hp
      · exact .inr ⟨hp.1, hM⟩
      · exact .inl hM

/-- An assertion about the mode, over the values of `MS`, `choose`, `time_number` and
`selector`. -/
def At (C : ℕ → ℕ → ℕ → ℕ → Prop) (w : World) : Prop :=
  C w.MS w.choose w.time_number w.selector

/-- What is known before a turn. -/
def Resting (w : World) : Prop := Mode w ∧ Bounded w

theorem holds_at {C : ℕ → ℕ → ℕ → ℕ → Prop} (hup : ∀ c t s, C 11 c t s → C 12 c t s)
    (hb : ∀ w, At C w → Bounded w) : Holds (RadioTask AnyPacket) Bounded (At C) := by
  refine ⟨fun w w' h hr => ?_, hb⟩
  obtain ⟨hM, hc, ht, hs⟩ := radio_mode hr
  unfold At
  rw [hc, ht, hs]
  rcases hM with hM | ⟨h₁₁, h₁₂⟩
  · rw [hM]
    exact h
  · rw [h₁₂]
    exact hup _ _ _ (h₁₁ ▸ h)

/-- A function all of whose statements keep an assertion about the mode. -/
theorem kept_triple {C : ℕ → ℕ → ℕ → ℕ → Prop} (hup : ∀ c t s, C 11 c t s → C 12 c t s)
    (hrest : ∀ w, At C w → Resting w) {p : Prog World} (h : p.Keeps (At C)) :
    Triple (RadioTask AnyPacket) Bounded (At C) p.unchecked Resting :=
  (Triple.of_keeps (holds_at hup fun w hw => (hrest w hw).2) h.unchecked).conseq (fun _ => id) hrest

/-! ### The states of the meters -/

/-- The functions of the states `2` to `5`. -/
def Serving (k : ℕ) (MS choose _time_number selector : ℕ) : Prop :=
  selector = k ∧ k ∈ [2, 3, 4, 5] ∧ choose ≤ 2 ∧ MS ∈ [1, 2, 3, 4, 5]

theorem Serving.resting {k : ℕ} {w : World} (h : At (Serving k) w) : Resting w := by
  obtain ⟨hs, hk, hc, hM⟩ := h
  have hle : w.MS ≤ 5 := by
    simp only [List.mem_cons, List.not_mem_nil, or_false] at hM
    omega
  refine ⟨⟨?_, by omega, fun _ => hc, fun h => ?_⟩, fun _ => hc, fun h => ?_⟩
  · simp only [List.mem_cons, List.not_mem_nil, or_false] at hM ⊢
    omega
  · simp only [List.mem_cons, List.not_mem_nil, or_false] at h
    omega
  · rw [← hs, h] at hk
    exact absurd hk (by decide)

section serving
variable {k : ℕ}

/-- `MS = n`. -/
theorem serving_MS {n : ℕ} (hn : n ∈ [1, 2, 3, 4, 5]) (w : World) (h : At (Serving k) w) :
    At (Serving k) { w with MS := n } := ⟨h.1, h.2.1, h.2.2.1, hn⟩

/-- `choose = 0`. -/
theorem serving_choose (w : World) (h : At (Serving k) w) :
    At (Serving k) { w with thread_time := 0, choose := 0 } := ⟨h.1, h.2.1, Nat.zero_le 2, h.2.2.2⟩

theorem GetTime_serving : MS_thread_GetTime.Keeps (At (Serving k)) :=
  ⟨fun _ h => h, fun _ h => h, trivial⟩

theorem SetTime_serving : MS_thread_SetTime.Keeps (At (Serving k)) :=
  ⟨fun _ h => h, fun _ h => h, fun _ h => h, ⟨fun _ h => h, trivial⟩, ⟨fun _ h => h, trivial⟩,
    ⟨fun _ h => h, trivial⟩, fun _ h => h, trivial⟩

theorem settings_key_serving : settings_key.Keeps (At (Serving k)) := by
  have hredraw : redraw.Keeps (At (Serving k)) := fun _ h => h
  have hwrite : write_digit.Keeps (At (Serving k)) :=
    ⟨⟨trivial, fun _ h => h, trivial⟩, ⟨trivial, fun _ h => h, trivial⟩,
      ⟨trivial, fun _ h => h, trivial⟩, trivial⟩
  have hdigit : digit_key.Keeps (At (Serving k)) :=
    ⟨hwrite, fun _ h => h, ⟨⟨fun _ h => h, trivial⟩, fun _ h => h, trivial⟩, hredraw, trivial⟩
  have hup : up_key.Keeps (At (Serving k)) :=
    ⟨⟨fun _ h => h, trivial⟩, ⟨fun _ h => h, fun _ h => h⟩, hredraw, trivial⟩
  have hdown : down_key.Keeps (At (Serving k)) :=
    ⟨⟨fun _ h => h, trivial⟩, fun _ h => h, fun _ h => h, hredraw, trivial⟩
  have hleft : left_key.Keeps (At (Serving k)) :=
    ⟨⟨fun _ h => h, fun _ h => h, fun _ h => h⟩, hredraw, trivial⟩
  have hright : right_key.Keeps (At (Serving k)) :=
    ⟨fun _ h => h, ⟨fun _ h => h, fun _ h => h⟩, hredraw, trivial⟩
  have htime : time_row.Keeps (At (Serving k)) :=
    ⟨⟨fun _ h => h, trivial⟩, ⟨fun _ h => h, SetTime_serving, trivial⟩, trivial⟩
  have hreturn : return_key.Keeps (At (Serving k)) :=
    ⟨⟨fun _ h => h, hredraw, trivial⟩, ⟨fun _ h => h, hredraw, fun _ h => h, trivial⟩,
      serving_MS (by decide), serving_choose, trivial⟩
  have hok : ok_key.Keeps (At (Serving k)) :=
    ⟨⟨fun _ h => h, ⟨⟨fun _ h => h, SetTime_serving, trivial⟩, trivial⟩, fun _ h => h, trivial⟩,
      trivial⟩
  exact ⟨⟨⟨hdigit, trivial⟩, ⟨hup, trivial⟩, ⟨hdown, trivial⟩, ⟨hleft, trivial⟩, ⟨hright, trivial⟩,
    ⟨htime, trivial⟩, ⟨hreturn, trivial⟩, ⟨hok, trivial⟩, trivial⟩, trivial⟩

theorem SettingMs_serving : MS_thread_SettingMs.Keeps (At (Serving k)) :=
  ⟨⟨⟨fun _ h => h, ⟨GetTime_serving, trivial⟩, trivial⟩, trivial⟩, settings_key_serving,
    ⟨⟨fun _ h => h, ⟨serving_MS (by decide), trivial⟩, trivial⟩, trivial⟩, trivial⟩

theorem tests_serving :
    (Prog.ite (fun w => w.choose = 0) MS_thread_test0 MS_thread_test1).Keeps (At (Serving k)) := by
  have hsteps : TestSteps fun w w' => At (Serving k) w → At (Serving k) w' :=
    ⟨fun _ _ h => h, fun _ h => h, fun _ h => h, fun _ _ h => h, fun _ _ h => h,
      fun n hn => serving_MS (by revert n; decide), fun _ _ h => h, fun _ h => h⟩
  exact ⟨hsteps.test0.keeps fun _ _ h => h, hsteps.test1.keeps fun _ _ h => h⟩

theorem test_serving : MS_thread_test.Keeps (At (Serving k)) :=
  ⟨fun _ h => h, tests_serving, fun _ h => h, trivial, fun _ h => h, fun _ h => h, trivial⟩

theorem show_settings_serving : show_settings.Keeps (At (Serving k)) :=
  ⟨serving_MS (by decide), fun _ h => h, GetTime_serving, trivial⟩

theorem ERROR_serving : MS_thread_ERROR.Keeps (At (Serving k)) :=
  ⟨⟨fun _ h => h, trivial⟩, fun _ h => h, ⟨fun _ h => h, trivial⟩, ⟨show_settings_serving, trivial⟩,
    trivial⟩

theorem increment_serving (len : ℕ) : (increment len).Keeps (At (Serving k)) :=
  (increment_all (R := fun w w' => At (Serving k) w → At (Serving k) w') (fun _ _ h => h)
    (fun _ _ _ h => h) len).keeps fun _ _ h => h

theorem pass_turn_serving : MS_thread_pass.Keeps (At (Serving k)) :=
  ⟨⟨trivial, ⟨increment_serving 8, increment_serving 6⟩, fun _ h => h, show_settings_serving,
    trivial⟩, trivial⟩

end serving

/-! ### The start and the choice of the mode -/

/-- The function of the state `0`. -/
def Starting (MS choose _time_number selector : ℕ) : Prop :=
  selector = 0 ∧ choose ≤ 3 ∧ MS ≤ 1

/-- The function of the state `1` before OK has its effect; `n` bounds `choose`. -/
def Choosing (n MS choose _time_number selector : ℕ) : Prop :=
  selector = 1 ∧ choose ≤ n ∧ MS = 1

/-- The function of the state `1` behind OK. -/
def Entering (MS choose _time_number selector : ℕ) : Prop :=
  selector = 1 ∧ choose ≤ 3 ∧ MS = 2

/-- A state in which nothing is known of the date. -/
theorem resting_of {w : World} (hs : w.selector = 0 ∨ w.selector = 1 ∨ w.selector = 10)
    (hM : w.MS ∈ [0, 1, 10]) (hc : w.choose ≤ 3) : Resting w := by
  simp only [List.mem_cons, List.not_mem_nil, or_false] at hM
  refine ⟨⟨?_, hc, fun h => ?_, fun h => ?_⟩, fun h => ?_, fun h => by omega⟩
  · simp only [List.mem_cons, List.not_mem_nil, or_false]
    omega
  · simp only [List.mem_cons, List.not_mem_nil, or_false] at h
    omega
  · simp only [List.mem_cons, List.not_mem_nil, or_false] at h
    omega
  · unfold Indexes at h
    simp only [List.mem_cons, List.not_mem_nil, or_false] at h
    omega

theorem init_resting : Triple (RadioTask AnyPacket) Bounded (At Starting) MS_thread_init.unchecked
    Resting := by
  refine kept_triple (fun _ _ _ h => by have := h.2.2; omega) (fun w h => ?_)
    ⟨fun _ h => ⟨h.1, h.2.1, le_refl 1⟩, fun _ h => ⟨h.1, Nat.zero_le 3, h.2.2⟩, fun _ h => h,
      fun _ h => h, trivial⟩
  obtain ⟨hs, hc, hM⟩ := h
  refine resting_of (.inl hs) ?_ hc
  simp only [List.mem_cons, List.not_mem_nil, or_false]
  omega

theorem holds_choosing (n : ℕ) : Holds (RadioTask AnyPacket) Bounded (At (Choosing n)) := by
  apply holds_at (fun _ _ _ h => by have := h.2.2; omega)
  intro w h
  obtain ⟨hs, -, hM⟩ := h
  refine ⟨fun hi => ?_, fun h => by omega⟩
  unfold Indexes at hi
  simp only [List.mem_cons, List.not_mem_nil, or_false] at hi
  omega

theorem holds_entering : Holds (RadioTask AnyPacket) Bounded (At Entering) := by
  apply holds_at (fun _ _ _ h => by have := h.2.2; omega)
  intro w h
  obtain ⟨hs, hc, hM⟩ := h
  refine ⟨fun hi => ?_, fun h => by omega⟩
  unfold Indexes at hi
  simp only [List.mem_cons, List.not_mem_nil, or_false] at hi
  omega

/-- A step that leaves the mode alone. -/
theorem Resting.same {w w' : World} (h : Resting w)
    (heq : w'.MS = w.MS ∧ w'.choose = w.choose ∧ w'.time_number = w.time_number ∧
      w'.selector = w.selector := by exact ⟨rfl, rfl, rfl, rfl⟩) : Resting w' := by
  obtain ⟨hM, hc, ht, hs⟩ := heq
  obtain ⟨⟨hMS, hch, hmeter, hdate⟩, hlist, hed⟩ := h
  refine ⟨⟨by rw [hM]; exact hMS, by rw [hc]; exact hch, by rw [hM, hc]; exact hmeter,
    by rw [hM, ht]; exact hdate⟩, fun hi => ?_, by rw [hs, ht]; exact hed⟩
  unfold Indexes at hi hlist
  rw [hs, hM, hc] at hi
  rw [hc]
  exact hlist hi

theorem holds_resting : Holds (RadioTask AnyPacket) Bounded Resting := by
  refine ⟨fun w w' h hr => ?_, fun w h => h.2⟩
  obtain ⟨hM, hc, ht, hs⟩ := radio_mode hr
  rcases hM with hM | ⟨h₁₁, h₁₂⟩
  · exact h.same ⟨hM, hc, ht, hs⟩
  · refine ⟨⟨by rw [h₁₂]; decide, by rw [hc]; exact h.1.choose,
      fun h => absurd (h₁₂ ▸ h) (by decide), fun _ => ?_⟩, fun hi => ?_, by rw [hs, ht]; exact h.2.date⟩
    · rw [ht]
      exact h.1.date (by rw [h₁₁]; decide)
    · rw [hc]
      refine h.2.list (hi.imp (fun hi => hs ▸ hi) fun hi => absurd hi.2.1 ?_)
      rw [h₁₂]
      decide

/-- **The choice of the mode**: behind DOWN the index passes `4` for one statement. -/
theorem SelectMode_resting :
    Triple (RadioTask AnyPacket) Bounded (At (Choosing 3)) MS_thread_SelectMode Resting := by
  have hrest : ∀ w, At (Choosing 3) w → Resting w := fun w h =>
    resting_of (.inr (.inl h.1)) (by rw [h.2.2]; decide) h.2.1
  have hkept : ∀ {n : ℕ} {p : Prog World}, p.Keeps (At (Choosing n)) →
      Triple (RadioTask AnyPacket) Bounded (At (Choosing n)) p (At (Choosing n)) :=
    fun h => .of_keeps (holds_choosing _) h
  have hredraw : redraw.Keeps (At (Choosing 3)) := fun _ h => h
  have hblink : (Prog.cond (fun w => w.thread_time % 10 = 0)
      (.act fun w => { w with reverse := (w.reverse + 1) % 2 })).Keeps (At (Choosing 3)) :=
    ⟨fun _ h => h, trivial⟩
  have hup : (Prog.cond (fun w => w.button_number = BUTTON_UP) (block [
      .act fun w => { w with choose := if w.choose ≠ 0 then w.choose - 1 else 3 },
      redraw])).Keeps (At (Choosing 3)) := by
    refine ⟨⟨fun w h => ⟨h.1, ?_, h.2.2⟩, hredraw, trivial⟩, trivial⟩
    have hc : w.choose ≤ 3 := h.2.1
    show (if w.choose ≠ 0 then w.choose - 1 else 3) ≤ 3
    split_ifs <;> omega
  refine .block_cons (hkept hblink) (.block_last holds_resting (.cond (holds_choosing 3)
    holds_resting ?_ fun w h _ => hrest w h))
  refine .block_cons (R := At (Choosing 3)) ((hkept hup).pre fun _ h => h.1) <|
    .block_cons (R := At (Choosing 3)) ?_ (.block_last holds_resting ?_)
  · refine .cond (holds_choosing 3) (holds_choosing 3) ?_ fun _ h _ => h
    refine .block_cons (R := At (Choosing 4)) ?_ <| .block_cons (R := At (Choosing 3)) ?_ <|
      .block_last (holds_choosing 3) (hkept hredraw)
    · exact Triple.pre (.act (holds_choosing 3) (holds_choosing 4)
        fun w h => ⟨h.1, Nat.succ_le_succ h.2.1, h.2.2⟩) fun _ h => h.1
    · exact .act (holds_choosing 4) (holds_choosing 3) fun w h =>
        ⟨h.1, Nat.le_of_lt_succ (Nat.mod_lt w.choose (by decide)), h.2.2⟩
  · refine .cond (holds_choosing 3) holds_resting ?_ fun w h _ => hrest w h
    refine .block_cons (R := At Entering) ?_ <| .block_cons (R := At Entering) ?_ <|
      .block_cons (R := At Entering) ?_ <| .block_last holds_resting ?_
    · exact Triple.pre (.act (holds_choosing 3) holds_entering
        fun w h => ⟨h.1, h.2.1, rfl⟩) fun _ h => h.1
    · exact .of_keeps holds_entering (p := .act _) fun _ h => h
    · exact .of_keeps holds_entering (p := .cond _ MS_thread_GetTime)
        ⟨⟨fun _ h => h, fun _ h => h, trivial⟩, trivial⟩
    · refine .cond holds_entering holds_resting ?_ fun w h hne => ?_
      · refine Triple.pre (.act holds_entering holds_resting fun w h => ?_) fun _ h => h.1
        exact resting_of (.inr (.inl h.1)) (show 10 ∈ [0, 1, 10] by decide) h.2.1
      · obtain ⟨hs, hc, hM⟩ := h
        have hc : w.choose ≤ 2 := by
          have : w.choose ≠ 3 := by simpa using hne
          omega
        refine ⟨⟨by rw [hM]; decide, by omega, fun _ => hc, fun h => ?_⟩, fun _ => hc,
          fun h => by omega⟩
        rw [hM] at h
        exact absurd h (by decide)

/-! ### The radio log -/

/-- The function of the state `10`, up to its last statement. -/
def Opening (MS choose _time_number selector : ℕ) : Prop :=
  selector = 10 ∧ choose ≤ 3 ∧ MS = 10

/-- The functions of the states `11` and `12`, and the end of that of `10`. -/
def Browsing (k : ℕ) (MS choose time_number selector : ℕ) : Prop :=
  selector = k ∧ k ∈ [10, 11, 12] ∧ choose ≤ 3 ∧ MS ∈ [1, 11, 12] ∧ DatePlace time_number

/-- The same, with the cursor in the date. -/
def Editing (MS choose time_number selector : ℕ) : Prop :=
  Browsing 11 MS choose time_number selector ∧ time_number ≠ 20

section browsing
variable {k : ℕ}

theorem Browsing.up {c t s : ℕ} (h : Browsing k 11 c t s) : Browsing k 12 c t s :=
  ⟨h.1, h.2.1, h.2.2.1, by decide, h.2.2.2.2⟩

theorem Browsing.resting {w : World} (h : At (Browsing k) w) : Resting w := by
  obtain ⟨hs, hk, hc, hM, ht⟩ := h
  simp only [List.mem_cons, List.not_mem_nil, or_false] at hk hM
  refine ⟨⟨?_, hc, fun h => ?_, fun _ => ht⟩, fun h => ?_, fun _ => ht⟩
  · simp only [List.mem_cons, List.not_mem_nil, or_false]
    omega
  · simp only [List.mem_cons, List.not_mem_nil, or_false] at h
    omega
  · unfold Indexes at h
    simp only [List.mem_cons, List.not_mem_nil, or_false] at h
    omega

theorem holds_browsing : Holds (RadioTask AnyPacket) Bounded (At (Browsing k)) :=
  holds_at (fun _ _ _ => Browsing.up) fun _ h => (Browsing.resting h).2

theorem holds_editing : Holds (RadioTask AnyPacket) Bounded (At Editing) :=
  holds_at (fun _ _ _ h => ⟨h.1.up, h.2⟩) fun _ h => (Browsing.resting h.1).2

theorem holds_opening : Holds (RadioTask AnyPacket) Bounded (At Opening) :=
  holds_at (fun _ _ _ h => by have := h.2.2; omega) fun _ h =>
    (resting_of (.inr (.inr h.1)) (by rw [h.2.2]; decide) h.2.1).2

/-- `time_number = t`. -/
theorem browsing_date {t : ℕ} (ht : DatePlace t) (w : World) (h : At (Browsing k) w) :
    At (Browsing k) { w with time_number := t } := ⟨h.1, h.2.1, h.2.2.1, h.2.2.2.1, ht⟩

/-- `MS = n`. -/
theorem browsing_MS {n : ℕ} (hn : n ∈ [1, 11, 12]) (w : World) (h : At (Browsing k) w) :
    At (Browsing k) { w with MS := n } := ⟨h.1, h.2.1, h.2.2.1, hn, h.2.2.2.2⟩

/-- A new value of `show_ax_addr`. -/
theorem browsing_addr (n : World → ℕ) (w : World) (h : At (Browsing k) w) :
    At (Browsing k) { w with show_ax_addr := n w } := h

theorem DatePlace.next (t : ℕ) : DatePlace ((t + 1) % 12) :=
  .inl (Nat.le_of_lt_succ (Nat.mod_lt _ (by decide)))

theorem clamp_browsing (i j : Fin 7) (max : UInt8) : (clamp i j max).Keeps (At (Browsing k)) :=
  ⟨fun _ h => h, trivial⟩

theorem show_ax_record_browsing (addr : World → ℕ) :
    (show_ax_record addr).Keeps (At (Browsing k)) := ⟨fun _ h => h, fun _ h => h, trivial⟩

theorem redraw_date_browsing : redraw_date.Keeps (At (Browsing k)) := fun _ h => h

theorem ax_start_resting :
    Triple (RadioTask AnyPacket) Bounded (At Opening) MS_thread_ax_start Resting := by
  have hkept : ∀ {p : Prog World}, p.Keeps (At Opening) →
      Triple (RadioTask AnyPacket) Bounded (At Opening) p (At Opening) :=
    fun h => .of_keeps holds_opening h
  have hopened : Holds (RadioTask AnyPacket) Bounded
      (At fun M c t s => Opening M c t s ∧ t = 20) :=
    holds_at (fun _ _ _ h => by have := h.1.2.2; omega) fun w h => holds_opening.keeps w h.1
  refine .block_cons (hkept (p := .act _) fun _ h => h) <|
    .block_cons (hkept (p := .act _) fun _ h => h) <|
    .block_cons (hkept (p := .act _) fun _ h => h) <|
    .block_cons (hkept (p := .cond _ (show_ax_record _))
      ⟨⟨fun _ h => h, fun _ h => h, trivial⟩, trivial⟩) <|
    .block_cons (.act holds_opening hopened fun w h => ⟨h, rfl⟩) <|
    .block_last holds_resting (.act hopened holds_resting fun w h => ?_)
  obtain ⟨⟨hs, hc, -⟩, ht⟩ := h
  exact Browsing.resting (k := 10) ⟨hs, by decide, hc, show 11 ∈ [1, 11, 12] by decide, .inr ht⟩

theorem ax_refresh_browsing : MS_thread_ax_refresh.Keeps (At (Browsing k)) :=
  ⟨fun _ h => h, fun _ h => h, fun _ h => h, fun _ h => h, ⟨fun _ h => h, trivial⟩, fun _ h => h,
    fun _ h => h, fun _ h => h, browsing_MS (by decide), trivial⟩

end browsing

/-- UP and LEFT take the cursor of the date back only while it is in the date. -/
theorem ax_back_key_browsing : Triple (RadioTask AnyPacket) Bounded (At (Browsing 11))
    ax_back_key.unchecked (At (Browsing 11)) := by
  refine .ite holds_browsing ?_ ?_
  · refine Triple.pre (.of_keeps holds_browsing ?_) fun _ h => h.1
    exact ⟨⟨⟨browsing_addr _, trivial, browsing_addr _, trivial⟩,
      (show_ax_record_browsing _).unchecked, trivial⟩, trivial⟩
  · refine Triple.pre (P := At Editing) ?_ fun w h => ⟨h.1, by simpa using h.2⟩
    refine .seq (.act holds_editing holds_browsing fun w h => browsing_date ?_ w h.1) <|
      .of_keeps holds_browsing ⟨redraw_date_browsing, trivial⟩
    obtain ⟨⟨-, -, -, -, ht⟩, hne⟩ := h
    unfold DatePlace at ht ⊢
    split_ifs <;> omega

theorem ax_resting : Triple (RadioTask AnyPacket) Bounded (At (Browsing 11)) MS_thread_ax.unchecked
    Resting := by
  have hkept : ∀ {c : World → Bool} {p : Prog World}, p.Keeps (At (Browsing 11)) →
      Triple (RadioTask AnyPacket) Bounded (At (Browsing 11)) (Prog.cond c p).unchecked
        (At (Browsing 11)) := fun h => .of_keeps holds_browsing ⟨h.unchecked, trivial⟩
  have hblink : blink_date.Keeps (At (Browsing 11)) :=
    ⟨⟨fun _ h => h, ⟨fun _ h => h, trivial⟩, trivial⟩, trivial⟩
  have hdigit : ax_digit_key.Keeps (At (Browsing 11)) :=
    ⟨fun _ h => h, fun w h => browsing_date (.next w.time_number) w h, redraw_date_browsing, trivial⟩
  have hforward : ax_forward_key.Keeps (At (Browsing 11)) :=
    ⟨⟨⟨browsing_addr _, trivial, browsing_addr _, show_ax_record_browsing _, trivial⟩, trivial⟩,
      fun w h => browsing_date (.next w.time_number) w h, redraw_date_browsing, trivial⟩
  have hok : ax_ok_key.Keeps (At (Browsing 11)) :=
    ⟨⟨browsing_date (.inl (Nat.zero_le 11)), redraw_date_browsing, trivial⟩,
      clamp_browsing 5 5 12, clamp_browsing 4 4 31, fun _ h => h, clamp_browsing 2 2 23,
      clamp_browsing 1 1 59, clamp_browsing 0 0 59, fun _ h => h, browsing_date (.inr rfl),
      redraw_date_browsing, trivial⟩
  have hreturn : ax_return_key.Keeps (At (Browsing 11)) :=
    ⟨fun w h => browsing_date (.inr rfl) w h, browsing_MS (by decide),
      fun _ h => ⟨h.1, h.2.1, Nat.zero_le 3, h.2.2.2⟩, trivial⟩
  refine Triple.conseq (Q := At (Browsing 11)) ?_ (fun _ => id) fun _ => Browsing.resting
  refine .seq (.of_keeps holds_browsing hblink.unchecked) (.seq ?_ (.skip holds_browsing))
  refine .cond holds_browsing holds_browsing (Triple.pre ?_ fun _ h => h.1) fun _ h _ => h
  exact .seq (hkept hdigit) <| .seq (.cond holds_browsing holds_browsing
      (ax_back_key_browsing.pre fun _ h => h.1) fun _ h _ => h) <|
    .seq (hkept hforward) <| .seq (hkept hok) <| .seq (hkept hreturn) (.skip holds_browsing)

/-! ### The loop -/

/-- The `switch` has selected its function; a packet may have raised `MS` since. -/
def Dispatched (MS choose time_number selector : ℕ) : Prop :=
  selector ∈ [0, 1, 2, 3, 4, 5, 10, 11, 12] ∧ (MS = selector ∨ (selector = 11 ∧ MS = 12)) ∧
    choose ≤ 3 ∧ (selector ∈ [2, 3, 4, 5] → choose ≤ 2) ∧
    (selector ∈ [11, 12] → DatePlace time_number)

theorem holds_dispatched : Holds (RadioTask AnyPacket) Bounded (At Dispatched) := by
  refine holds_at (fun c t s h => ⟨h.1, ?_, h.2.2⟩) fun w h => ⟨fun hi => ?_, fun hs => ?_⟩
  · rcases h.2.1 with h | h
    · exact .inr ⟨h.symm, rfl⟩
    · exact absurd h.2 (by decide)
  · obtain ⟨-, hM, -, hmeter, -⟩ := h
    rcases hi with hi | ⟨hs, h₂, -⟩
    · exact hmeter hi
    · omega
  · exact h.2.2.2.2 (by rw [hs]; decide)

/-- What the function of the state `k` may rely on. -/
theorem Dispatched.serving {k : ℕ} (hk : k ∈ [2, 3, 4, 5]) {w : World} (h : At Dispatched w)
    (hs : w.selector = k) : At (Serving k) w := by
  obtain ⟨-, hM, -, hmeter, -⟩ := h
  refine ⟨hs, hk, hmeter (hs ▸ hk), ?_⟩
  simp only [List.mem_cons, List.not_mem_nil, or_false] at hk ⊢
  omega

theorem Dispatched.browsing {k : ℕ} (hk : k ∈ [11, 12]) {w : World} (h : At Dispatched w)
    (hs : w.selector = k) : At (Browsing k) w := by
  obtain ⟨-, hM, hc, -, hdate⟩ := h
  have ht : DatePlace w.time_number := hdate (hs ▸ hk)
  simp only [List.mem_cons, List.not_mem_nil, or_false] at hk
  refine ⟨hs, ?_, hc, ?_, ht⟩ <;> simp only [List.mem_cons, List.not_mem_nil, or_false] <;> omega

/-- **Every function keeps the mode.** -/
theorem MS_functions_resting : ∀ kp ∈ MS_functions, Triple (RadioTask AnyPacket) Bounded
    (fun w => At Dispatched w ∧ w.selector = kp.1) kp.2.unchecked Resting := by
  have hserving : ∀ {k : ℕ} {p : Prog World}, k ∈ [2, 3, 4, 5] → p.Keeps (At (Serving k)) →
      Triple (RadioTask AnyPacket) Bounded (fun w => At Dispatched w ∧ w.selector = k) p.unchecked
        Resting := fun hk h =>
    (kept_triple (fun _ _ _ h => absurd h.2.2.2 (by decide)) (fun _ => Serving.resting) h).pre
      fun w hw => Dispatched.serving hk hw.1 hw.2
  intro kp hkp
  simp only [MS_functions, List.mem_cons, List.not_mem_nil, or_false] at hkp
  rcases hkp with rfl | rfl | rfl | rfl | rfl | rfl | rfl | rfl | rfl
  · apply init_resting.pre
    intro w hw
    obtain ⟨⟨_, hM, hc, _⟩, hs⟩ := hw
    refine ⟨hs, hc, ?_⟩
    dsimp only at hs
    omega
  · apply SelectMode_resting.pre
    intro w hw
    obtain ⟨⟨_, hM, hc, _⟩, hs⟩ := hw
    refine ⟨hs, hc, ?_⟩
    dsimp only at hs
    omega
  · exact hserving (by decide) SettingMs_serving
  · exact hserving (by decide) test_serving
  · exact hserving (by decide) ERROR_serving
  · exact hserving (by decide) pass_turn_serving
  · apply ax_start_resting.pre
    intro w hw
    obtain ⟨⟨_, hM, hc, _⟩, hs⟩ := hw
    refine ⟨hs, hc, ?_⟩
    dsimp only at hs
    omega
  · exact ax_resting.pre fun w hw => Dispatched.browsing (by decide) hw.1 hw.2
  · exact (kept_triple (fun _ _ _ => Browsing.up) (fun _ => Browsing.resting)
      (ax_refresh_browsing (k := 12))).pre fun w hw => Dispatched.browsing (by decide) hw.1 hw.2

theorem main_turn_resting :
    Triple (RadioTask AnyPacket) Bounded Resting main_turn.unchecked Resting := by
  have hthread : Triple (RadioTask AnyPacket) Bounded Resting MS_thread.unchecked Resting := by
    refine .seq (.act holds_resting holds_dispatched fun w h => ?_) (.seq ?_ (.skip holds_resting))
    · exact ⟨h.1.MS, .inl rfl, h.1.choose, h.1.meter, h.1.date⟩
    · rw [unchecked_switch]
      refine .switch holds_resting (fun w w' h => (radio_mode h).2.2.2) holds_dispatched ?_ ?_
      · intro kp hkp
        obtain ⟨kq, hkq, rfl⟩ := List.mem_map.mp hkp
        exact MS_functions_resting kq hkq
      · intro w h hne
        have hmem : w.selector ∈ MS_functions.map Prod.fst := h.1
        obtain ⟨kq, hkq, he⟩ := List.mem_map.mp hmem
        exact absurd he.symm
          (hne (kq.1, kq.2.unchecked) (List.mem_map.mpr ⟨kq, hkq, rfl⟩))
  exact .seq (.of_keeps (p := .act _) holds_resting fun _ h => h.same) <| .seq hthread <|
    .seq (.of_keeps (p := .act _) holds_resting fun _ h => h.same) <|
    .seq (.of_keeps (p := .act _) holds_resting fun _ h => h.same) (.skip holds_resting)

/-- **The states of the tester.**  Whatever the keys, the pins, the meter and the radio do, before
every turn the mode is as described by `Mode`; at every moment `zf_list6[choose]` is in bounds
where the source evaluates it, and the cursor of the date is at one of its places; and the date
editor writes six bytes of `my_time`. -/
theorem mode_machine (fs : Fs) (devices : ℕ → Device) :
    (∀ p w, Reach (RadioTask AnyPacket) (.forever main_turn.unchecked) (booted fs devices) p w →
      (p = .forever main_turn.unchecked → Mode w) ∧ (Indexes w → w.choose ≤ 2) ∧
        (w.selector = 11 → DatePlace w.time_number)) ∧
      MS_thread_ax.All EditsDate ∧ ∀ t < 12, time_addr t ∈ [0, 1, 2, 4, 5, 6] := by
  have hstart : Resting (booted fs devices) :=
    resting_of (.inl rfl) (show 0 ∈ [0, 1, 10] by decide) (Nat.zero_le 3)
  refine ⟨fun p w h => ?_, MS_thread_ax_edits_date, fun t => time_addr_mem⟩
  obtain ⟨hlist, hdate⟩ :=
    ((Triple.forever holds_resting main_turn_resting) _ hstart p w h).1
  refine ⟨?_, hlist, hdate⟩
  rintro rfl
  exact (Triple.forever_head holds_resting main_turn_resting hstart h).1

end MeterTester
