import MeterTester.Verdict

/-! # The detector at the end of a test: `MS_thread_test1`

`IR_DET` lights the detector.  The valve is looked at with the light on; whoever sees it closed
turns the light off and goes on to a command or to the error, but who sees it open leaves the light
on for what follows.  Before the wheel that is right, since `valve_closed` starts with turning the
light off and ends with the light off.  Behind the last look nothing follows but the success, so
that the light is off at the end of a test exactly when the test fails (`detector_released_iff`). -/

namespace MeterTester

open Interleave Interleave.Prog World

/-! ### One step -/

/-- The light is on behind a valve that is seen open, and off behind a failure. -/
theorem valve_run_IR_DET (p : Point) (write_error valve_error : UInt8) (n : ℕ) (w : World) :
    (valve_run p write_error valve_error n w).world.IR_DET =
      if (valve_run p write_error valve_error n w).error = none then 1 else 0 := by
  induction n generalizing w with
  | zero =>
      rw [valve_run]
      by_cases h : IR_dark (look w) = true
      · simp only [h, if_true, reduceCtorEq, if_false]
        rfl
      · simp only [h, Bool.false_eq_true, if_false, if_true]
        rfl
  | succ n ih =>
      rw [valve_run]
      by_cases h : IR_dark (look w) = true
      · rw [if_pos h]
        dsimp only
        by_cases hflag : (send .open_valve ((look w).write_IR_DET 0)).uart_flag ≠ UART_READ_OK
        · rw [if_pos hflag]
          rfl
        · rw [if_neg hflag]
          exact ih _
      · rw [if_neg h]
        rfl

namespace TestStep

/-- The step looks at the valve. -/
def IsValve : TestStep → Prop
  | valve .. => True
  | _ => False

/-- The light is off behind every step but a valve that is seen open; only the wheel may be entered
with the light on. -/
theorem run_low {s : TestStep} {w : World} (h : w.IR_DET = 0 ∨ s = wheel)
    (hs : ¬ s.IsValve ∨ (s.run w).error ≠ none) : (s.run w).world.IR_DET = 0 := by
  cases s with
  | exchange c error => exact h.resolve_right nofun
  | answer p refusals => exact h.resolve_right nofun
  | valve p retries write_error valve_error =>
      have herr := hs.resolve_left (not_not_intro trivial)
      exact (valve_run_IR_DET p write_error valve_error retries w).trans (if_neg herr)
  | wheel => rfl

end TestStep

/-! ### The steps of a test -/

/-- Nothing but the wheel comes behind a valve. -/
def WheelBehind : List TestStep → Prop
  | [] => True
  | s :: steps => (s.IsValve → ∀ t ∈ steps.head?, t = .wheel) ∧ WheelBehind steps

/-- A test that fails leaves the light off. -/
theorem run_all_low {steps : List TestStep} {w : World} (hwheel : WheelBehind steps)
    (hlow : ∀ s ∈ steps.head?, w.IR_DET = 0 ∨ s = .wheel) (herr : (run_all steps w).error ≠ none) :
    (run_all steps w).world.IR_DET = 0 := by
  induction steps generalizing w with
  | nil => exact absurd rfl herr
  | cons s steps ih =>
      have hs := hlow s rfl
      rw [run_all] at herr ⊢
      cases he : (s.run w).error with
      | some error => exact s.run_low hs (.inr (by simp [he]))
      | none =>
          rw [he] at herr
          apply ih hwheel.2 _ herr
          intro t ht
          by_cases hv : s.IsValve
          · exact .inr (hwheel.1 hv t ht)
          · exact .inl (s.run_low hs (.inl hv))

/-- A test that ends with a look at the valve and succeeds leaves the light on. -/
theorem run_all_lit (p : Point) (retries : ℕ) (write_error valve_error : UInt8)
    (steps : List TestStep) (w : World)
    (h : (run_all (steps ++ [.valve p retries write_error valve_error]) w).error = none) :
    (run_all (steps ++ [.valve p retries write_error valve_error]) w).world.IR_DET = 1 := by
  induction steps generalizing w with
  | nil =>
      rw [List.nil_append, run_all] at h ⊢
      cases he : (TestStep.run (.valve p retries write_error valve_error) w).error with
      | some error =>
          rw [he] at h
          cases he.symm.trans h
      | none => exact (valve_run_IR_DET p write_error valve_error retries w).trans (if_pos he)
  | cons s steps ih =>
      rw [List.cons_append, run_all] at h ⊢
      cases he : (s.run w).error with
      | some error =>
          rw [he] at h
          cases he.symm.trans h
      | none =>
          rw [he] at h
          exact ih _ h

theorem test1_wheelBehind (len : ℕ) : WheelBehind (test1_steps len) := by
  simp [test1_steps, WheelBehind, TestStep.IsValve]

/-- Behind `test1_steps` the light is on exactly when no step has failed. -/
theorem test1_IR_DET (len : ℕ) {w : World} (hlow : w.IR_DET = 0) :
    (run_all (test1_steps len) w).world.IR_DET = 0 ↔ (run_all (test1_steps len) w).error ≠ none := by
  constructor
  · intro h hnone
    have hlit := run_all_lit .valve_after 1 WRITE_ERROR1 VALVE_ERROR1 (test1_steps len).dropLast w
      hnone
    exact absurd (h.symm.trans hlit) (by decide)
  · exact run_all_low (test1_wheelBehind len) fun _ _ => .inl hlow

/-! ### The procedure -/

/-- What `MS_thread_test1`, started in `w`, reads. -/
def test1_readings (w : World) : List Reading :=
  (run_all (test1_steps (serial_len w.choose)) w).readings

/-- Every command is answered and every point sees what it must. -/
def AllRight (w : World) : Prop :=
  Answered (test1_readings w) ∧
    ∀ p, PointOk (list_value (w.zf_list6 w.choose) (serial_len w.choose)) p
      (seen p (test1_readings w))

theorem test1_error_iff (w : World) :
    (run_all (test1_steps (serial_len w.choose)) w).error = none ↔ AllRight w := by
  have hiff := run_all_iff (test1_decides (serial_len w.choose)
    (list_value (w.zf_list6 w.choose) (serial_len w.choose))) (by rw [test1_points]; decide)
    (w := w) rfl
  have hpoints : ∀ p, p ∈ points (test1_steps (serial_len w.choose)) := by
    intro p
    rw [test1_points]
    cases p <;> decide
  rw [hiff, AllRight]
  refine and_congr_right fun _ => ⟨fun h p => h p (hpoints p), fun h p _ => h p⟩

/-- **The detector at the end of a test**: the light is off exactly when some command was not
answered or some point has not seen what it must. -/
theorem detector_released_iff (n : ℕ) {w : World} (hlow : w.IR_DET = 0) :
    ∃ w', MS_thread_test1.exec n w = some w' ∧ (w'.IR_DET = 0 ↔ ¬ AllRight w) := by
  refine ⟨(run_all (test1_steps (serial_len w.choose)) w).judge, ?_, ?_⟩
  · rw [MS_thread_test1_exec, test1_eq, progs_exec, Ended.go_on_pass]
  · rw [← test1_error_iff, ← ne_eq, ← test1_IR_DET _ hlow, Ended.judge]
    cases (run_all (test1_steps (serial_len w.choose)) w).error with
    | some error => rfl
    | none => rfl

/-- A meter that does not answer. -/
def silent_meter : World :=
  { good_meter with devices := fun n => { good_meter.devices n with uart_flag := 0 } }

theorem detector_released_silent :
    ∃ w', MS_thread_test1.exec 0 silent_meter = some w' ∧ w'.IR_DET = 0 := by
  obtain ⟨w', hexec, hiff⟩ := detector_released_iff 0 (w := silent_meter) rfl
  refine ⟨w', hexec, hiff.mpr fun h => ?_⟩
  exact absurd h.1 (by decide +kernel)

/-- A good meter passes with the light on. -/
theorem not_detector_released :
    (MS_thread_test1.exec 0 good_meter).map (fun w => (w.MS, w.IR_DET)) = some (5, 1) ∧
      ¬ ∀ (n : ℕ) (w w' : World), w.IR_DET = 0 → MS_thread_test1.exec n w = some w' →
        w'.IR_DET = 0 := by
  have hrun : (MS_thread_test1.exec 0 good_meter).map (fun w => (w.MS, w.IR_DET)) = some (5, 1) := by
    decide +kernel
  refine ⟨hrun, fun h => ?_⟩
  obtain ⟨w', hexec, he⟩ := Option.map_eq_some_iff.mp hrun
  have hlit := congrArg Prod.snd he
  exact absurd ((h 0 good_meter w' rfl hexec).symm.trans hlit) (by decide)

end MeterTester
