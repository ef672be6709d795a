import MeterTester.Serial

/-! # The verdict on a controllable meter

`MS_thread_test1` is a sequence of steps, each of which goes on or fails with its code: an exchange
with the meter, an answer that is checked, the valve that must be open (a few attempts), the wheel
that must have closed it.  `TestStep.run` performs a step and notes what it has read;
`TestStep.prog` is its program, and `test1` is the program of its steps (`test1_eq`).

A test passes exactly when the transcript of its readings is right at every point (`run_all_iff`);
its record then shows the code `0` (`test1_verdict`). -/

namespace MeterTester

open Interleave Interleave.Prog World Dfs

/-! ### Readings -/

/-- Where the detector or an answer decides. -/
inductive Point where
  | valve_before
  | wheel_turned
  | MSID
  | MSV
  | status
  | valve_after
deriving DecidableEq

/-- One reading of the test. -/
inductive Reading where
  /-- a command and the result of `get_uart_flag` behind it -/
  | exchange (c : Command) (uart_flag : ℕ)
  /-- a level of the detector, or the value of an answer -/
  | seen (p : Point) (n : ℕ)

/-- What was seen at the point `p`, in order. -/
def seen (p : Point) (readings : List Reading) : List ℕ :=
  readings.filterMap fun
    | .seen q n => if q = p then some n else none
    | .exchange _ _ => none

/-- The meter has answered, if it was asked. -/
def Reading.IsAnswered : Reading → Prop
  | .exchange _ uart_flag => uart_flag = UART_READ_OK
  | .seen _ _ => True

instance : DecidablePred Reading.IsAnswered
  | .exchange _ uart_flag => inferInstanceAs (Decidable (uart_flag = UART_READ_OK))
  | .seen _ _ => isTrue trivial

/-- Every command was answered. -/
def Answered (readings : List Reading) : Prop := ∀ r ∈ readings, r.IsAnswered

instance (readings : List Reading) : Decidable (Answered readings) :=
  inferInstanceAs (Decidable (∀ r ∈ readings, r.IsAnswered))

/-- What must be seen at a point; `number` is the serial that was written. -/
def PointOk (number : ℕ) : Point → List ℕ → Prop
  | .valve_before, ns => 1 ∈ ns
  | .wheel_turned, ns => ns.getLast? = some 0
  | .MSID, ns => ns = [number]
  | .MSV, ns => ns = [7]
  | .status, ns => ns.map (· % 0x400) = [0x60]
  | .valve_after, ns => 1 ∈ ns

/-- Readings, the code of a failure, and the state. -/
structure Ended where
  readings : List Reading
  error : Option UInt8
  world : World

namespace Ended

/-- Readings in front. -/
def after (e : Ended) (readings : List Reading) : Ended :=
  { e with readings := readings ++ e.readings }

/-- Fail, or go on with `rest`. -/
def go_on (e : Ended) (n : ℕ) (rest : Prog World) : Option World :=
  match e.error with
  | some error => (fail error).exec n e.world
  | none => rest.exec n e.world

end Ended

/-! ### Steps -/

inductive TestStep where
  | exchange (c : World → Command) (error : UInt8)
  | answer (p : Point) (refusals : List ((World → Bool) × UInt8))
  | valve (p : Point) (retries : ℕ) (write_error valve_error : UInt8)
  | wheel

/-- A detector reading. -/
def look (w : World) : World := (w.write_IR_DET 1).rt_pin_read IR_LED

def level (w : World) : ℕ := (w.pin_level IR_LED).toNat

/-- Issue a command and take its result. -/
def send (c : Command) (w : World) : World := (w.issue c).get_uart_flag

/-- The valve must be seen open, after `n` commands at most. -/
def valve_run (p : Point) (write_error valve_error : UInt8) : ℕ → World → Ended
  | 0, w =>
      { readings := [.seen p (level (look w))]
        error := if IR_dark (look w) then some valve_error else none
        world := if IR_dark (look w) then (look w).write_IR_DET 0 else look w }
  | n + 1, w =>
      if IR_dark (look w) then
        let w' := send .open_valve ((look w).write_IR_DET 0)
        let readings := [.seen p (level (look w)), .exchange .open_valve w'.uart_flag]
        if w'.uart_flag ≠ UART_READ_OK then ⟨readings, some write_error, w'⟩
        else (valve_run p write_error valve_error n w').after readings
      else ⟨[.seen p (level (look w))], none, look w⟩

def valve_prog (write_error valve_error : UInt8) (rest : Prog World) : ℕ → Prog World
  | 0 => read_IR <| .ite IR_dark (block [IR_off, fail valve_error]) rest
  | n + 1 => read_IR <| .ite IR_dark
      (block [IR_off, exchange (fun _ => .open_valve) write_error
        (valve_prog write_error valve_error rest n)]) rest

/-- At most `n` readings until the detector is dark. -/
def wait_run : ℕ → World → List Reading × World
  | 0, w => ([], w)
  | n + 1, w =>
      let w' := w.rt_pin_read IR_LED
      if IR_dark w' then ([.seen .wheel_turned (level w')], w')
      else
        let r := wait_run n w'
        (.seen .wheel_turned (level w') :: r.1, r.2)

/-- The wheel has turned; the last reading decides. -/
def wheel_run (w : World) : Ended :=
  let r := wait_run 4 ((w.write_IR_DET 0).write_IR_DET 1)
  let w' := r.2.rt_pin_read IR_LED
  { readings := r.1 ++ [.seen .wheel_turned (level w')]
    error := if w'.pin_level IR_LED = true then some VALVE_ERROR else none
    world := w'.write_IR_DET 0 }

namespace TestStep

def run : TestStep → World → Ended
  | exchange c error, w =>
      let w' := send (c w) w
      { readings := [.exchange (c w) w'.uart_flag]
        error := if w'.uart_flag ≠ UART_READ_OK then some error else none
        world := w' }
  | answer p refusals, w =>
      let w' := w.get_UartData
      { readings := [.seen p w'.uart_data]
        error := (refusals.find? fun r => r.1 w').map Prod.snd
        world := w' }
  | valve p retries write_error valve_error, w => valve_run p write_error valve_error retries w
  | wheel, w => wheel_run w

def prog : TestStep → Prog World → Prog World
  | exchange c error, rest => MeterTester.exchange c error rest
  | answer _ refusals, rest =>
      block [.act World.get_UartData, refusals.foldr (fun r p => refuse r.1 r.2 p) rest]
  | valve _ retries write_error valve_error, rest => valve_prog write_error valve_error rest retries
  | wheel, rest => valve_closed rest

/-- The point that the step decides at. -/
def point : TestStep → Option Point
  | exchange .. => none
  | answer p _ => some p
  | valve p .. => some p
  | wheel => some .wheel_turned

end TestStep

def run_all : List TestStep → World → Ended
  | [], w => ⟨[], none, w⟩
  | s :: steps, w =>
      match (s.run w).error with
      | some _ => s.run w
      | none => (run_all steps (s.run w).world).after (s.run w).readings

/-- The steps of `MS_thread_test1`. -/
def test1_steps (len : ℕ) : List TestStep := [
  .exchange (write_MSID len) WRITE_ERROR,
  .exchange write_MSV WRITE_ERROR,
  .exchange write_time WRITE_ERROR,
  .valve .valve_before 2 WRITE_ERROR2 VALVE_ERROR,
  .wheel,
  .exchange (read_back 0) READ_ERROR,
  .answer .MSID [(fun w => list_value (w.zf_list6 w.choose) len ≠ w.uart_data, MSID_ERROR)],
  .exchange (read_back 1) READ_ERROR,
  .answer .MSV [(fun w => w.uart_data ≠ 7, MSV_ERROR)],
  .exchange (read_back 2) READ_ERROR,
  .answer .status [
    (fun w => w.uart_data &&& 0x02 ≠ 0, TAMPER),
    (fun w => w.uart_data &&& 0x01 ≠ 0, LOW_POWER),
    (fun w => w.uart_data &&& 0x04 ≠ 0, CRITICAL_LOW_BATTERY),
    (fun w => w.uart_data &&& 0x40 = 0, VALVE_STATUS_ERROR),
    (fun w => w.uart_data &&& 0x20 = 0, CRITICAL_ESCAPE),
    (fun w => w.uart_data &&& 0x10 ≠ 0, MINOR_ESCAPE_ERROR),
    (fun w => w.uart_data &&& 0x08 ≠ 0, INSPECT_ERROR),
    (fun w => w.uart_data &&& 0x80 ≠ 0, VALVE_CONNECTION_ERROR),
    (fun w => w.uart_data &&& 0x100 ≠ 0, VALVE_ERROR_ALARM),
    (fun w => w.uart_data &&& 0x200 ≠ 0, VALVE_TIGHTNESS_ERROR)],
  .exchange write_MSV WRITE_ERROR1,
  .exchange (fun _ => .open_valve) WRITE_ERROR1,
  .valve .valve_after 1 WRITE_ERROR1 VALVE_ERROR1]

/-- The program of the steps, with a success behind them. -/
def progs (steps : List TestStep) : Prog World := steps.foldr TestStep.prog pass

/-- The test is the program of its steps. -/
theorem test1_eq (len : ℕ) : test1 len = progs (test1_steps len) := rfl

/-! ### The steps describe the program -/

section prog
variable (n : ℕ)

theorem exchange_exec (c : World → Command) (error : UInt8) (rest : Prog World) (w : World) :
    (exchange c error rest).exec n w =
      ((TestStep.exchange c error).run w).go_on n rest := by
  simp only [exchange, exec_block_cons, bind_exec_nil, exec_act, exec_ite, Option.bind_some,
    TestStep.run, Ended.go_on, send]
  by_cases h : ((w.issue (c w)).get_uart_flag).uart_flag = UART_READ_OK
  · simp [h]
  · simp [h]

theorem refusals_exec (rest : Prog World) (w : World) (refusals : List ((World → Bool) × UInt8)) :
    (refusals.foldr (fun r p => refuse r.1 r.2 p) rest).exec n w =
      (Ended.mk [] ((refusals.find? fun r => r.1 w).map Prod.snd) w).go_on n rest := by
  induction refusals with
  | nil => rfl
  | cons r refusals ih =>
      rw [List.foldr_cons, refuse, exec_ite, ih]
      cases h : r.1 w <;> simp [h, Ended.go_on]

theorem read_IR_exec (p q : Prog World) (w : World) :
    (read_IR (.ite IR_dark p q)).exec n w =
      if IR_dark (look w) then p.exec n (look w) else q.exec n (look w) := by
  simp only [read_IR, exec_block_cons, bind_exec_nil, exec_act, exec_ite, Option.bind_some]
  rfl

theorem IR_off_exec (p : Prog World) (w : World) :
    (block [IR_off, p]).exec n w = p.exec n (w.write_IR_DET 0) := by
  simp only [IR_off, exec_block_cons, bind_exec_nil, exec_act, Option.bind_some]

theorem valve_exec (p : Point) (write_error valve_error : UInt8) (rest : Prog World)
    (retries : ℕ) (w : World) : (valve_prog write_error valve_error rest retries).exec n w =
      (valve_run p write_error valve_error retries w).go_on n rest := by
  induction retries generalizing w with
  | zero =>
      rw [valve_prog, read_IR_exec, IR_off_exec, valve_run, Ended.go_on]
      by_cases h : IR_dark (look w) = true
      · simp [h]
      · simp [h]
  | succ retries ih =>
      rw [valve_prog, read_IR_exec, IR_off_exec, exchange_exec, valve_run]
      by_cases h : IR_dark (look w) = true
      · rw [if_pos h, if_pos h]
        dsimp only [TestStep.run]
        split_ifs with hflag
        · rfl
        · simp only [Ended.go_on, ih, Ended.after]
      · rw [if_neg h, if_neg h]
        rfl

theorem wait_dark_exec (k : ℕ) (w : World) : (wait_dark k).exec n w = some (wait_run k w).2 := by
  induction k generalizing w with
  | zero => rfl
  | succ k ih =>
      simp only [wait_dark, exec_block_cons, bind_exec_nil, exec_act, exec_ite, Option.bind_some,
        exec_skip, ih, wait_run]
      split_ifs <;> rfl

theorem wheel_exec (rest : Prog World) (w : World) :
    (valve_closed rest).exec n w = (wheel_run w).go_on n rest := by
  simp only [valve_closed, IR_off, exec_block_cons, bind_exec_nil, exec_act, exec_ite,
    Option.bind_some, wait_dark_exec, wheel_run, Ended.go_on]
  by_cases h : ((wait_run 4 ((w.write_IR_DET 0).write_IR_DET 1)).2.rt_pin_read IR_LED).pin_level
      IR_LED = true
  · simp [h]
  · simp [h]

theorem TestStep.prog_exec (s : TestStep) (rest : Prog World) (w : World) :
    (s.prog rest).exec n w = (s.run w).go_on n rest := by
  cases s with
  | exchange c error => exact exchange_exec n c error rest w
  | answer p refusals =>
      simp only [TestStep.prog, exec_block_cons, bind_exec_nil, exec_act, Option.bind_some]
      exact refusals_exec n rest _ refusals
  | valve p retries write_error valve_error =>
      exact valve_exec n p write_error valve_error rest retries w
  | wheel => exact wheel_exec n rest w

/-- **The program of a list of steps does what the steps do.** -/
theorem progs_exec (steps : List TestStep) (w : World) :
    (progs steps).exec n w = (run_all steps w).go_on n pass := by
  induction steps generalizing w with
  | nil => rfl
  | cons s steps ih =>
      have hstep := s.prog_exec n (progs steps) w
      rw [progs, List.foldr_cons, ← progs, hstep, run_all, Ended.go_on]
      cases h : (s.run w).error with
      | some error => simp only [Ended.go_on, h]
      | none => exact ih (s.run w).world

end prog

/-! ### What a step needs to go on -/

theorem seen_append (p : Point) (r r' : List Reading) : seen p (r ++ r') = seen p r ++ seen p r' :=
  List.filterMap_append

theorem answered_append (r r' : List Reading) : Answered (r ++ r') ↔ Answered r ∧ Answered r' := by
  simp only [Answered, List.mem_append, or_imp, forall_and]

@[simp] theorem seen_nil (p : Point) : seen p [] = [] := rfl

@[simp] theorem seen_cons_self (p : Point) (n : ℕ) (r : List Reading) :
    seen p (.seen p n :: r) = n :: seen p r := by simp [seen]

theorem seen_cons_ne {p q : Point} (h : q ≠ p) (n : ℕ) (r : List Reading) :
    seen p (.seen q n :: r) = seen p r := by simp [seen, h]

@[simp] theorem seen_cons_exchange (p : Point) (c : Command) (uart_flag : ℕ) (r : List Reading) :
    seen p (.exchange c uart_flag :: r) = seen p r := rfl

@[simp] theorem answered_nil : Answered [] := fun _ h => absurd h (List.not_mem_nil)

@[simp] theorem answered_cons_seen (p : Point) (n : ℕ) (r : List Reading) :
    Answered (.seen p n :: r) ↔ Answered r := by
  simp [Answered, Reading.IsAnswered]

@[simp] theorem answered_cons_exchange (c : Command) (uart_flag : ℕ) (r : List Reading) :
    Answered (.exchange c uart_flag :: r) ↔ uart_flag = UART_READ_OK ∧ Answered r := by
  simp [Answered, Reading.IsAnswered]

/-- What no step of a test changes. -/
structure Unmoved (w w' : World) : Prop where
  choose : w'.choose = w.choose
  zf_list6 : w'.zf_list6 = w.zf_list6
  dfs : w'.dfs = w.dfs
  MS_error : w'.MS_error = w.MS_error

theorem Unmoved.trans {w w' w'' : World} (h : Unmoved w w') (h' : Unmoved w' w'') :
    Unmoved w w'' :=
  ⟨h'.choose.trans h.choose, h'.zf_list6.trans h.zf_list6, h'.dfs.trans h.dfs,
    h'.MS_error.trans h.MS_error⟩

theorem look_unmoved (w : World) : Unmoved w (look w) := ⟨rfl, rfl, rfl, rfl⟩

theorem send_unmoved (c : Command) (w : World) : Unmoved w (send c w) := ⟨rfl, rfl, rfl, rfl⟩

theorem IR_off_unmoved (w : World) : Unmoved w (w.write_IR_DET 0) := ⟨rfl, rfl, rfl, rfl⟩

theorem valve_run_unmoved (p : Point) (write_error valve_error : UInt8) (n : ℕ) (w : World) :
    Unmoved w (valve_run p write_error valve_error n w).world := by
  induction n generalizing w with
  | zero =>
      rw [valve_run]
      dsimp only
      split_ifs
      · exact (look_unmoved w).trans (IR_off_unmoved _)
      · exact look_unmoved w
  | succ n ih =>
      have hsend := ((look_unmoved w).trans (IR_off_unmoved _)).trans (send_unmoved .open_valve _)
      rw [valve_run]
      dsimp only
      split_ifs
      · exact hsend
      · exact hsend.trans (ih _)
      · exact look_unmoved w

theorem wait_run_unmoved (n : ℕ) (w : World) : Unmoved w (wait_run n w).2 := by
  induction n generalizing w with
  | zero => exact ⟨rfl, rfl, rfl, rfl⟩
  | succ n ih =>
      have hread : Unmoved w (w.rt_pin_read IR_LED) := ⟨rfl, rfl, rfl, rfl⟩
      rw [wait_run]
      dsimp only
      split_ifs
      · exact hread
      · exact hread.trans (ih _)

theorem wheel_run_unmoved (w : World) : Unmoved w (wheel_run w).world := by
  rw [wheel_run]
  have h := wait_run_unmoved 4 ((w.write_IR_DET 0).write_IR_DET 1)
  generalize wait_run 4 ((w.write_IR_DET 0).write_IR_DET 1) = r at h ⊢
  exact ⟨h.choose, h.zf_list6, h.dfs, h.MS_error⟩

theorem TestStep.run_unmoved (s : TestStep) (w : World) : Unmoved w (s.run w).world := by
  cases s with
  | exchange c error => exact ⟨rfl, rfl, rfl, rfl⟩
  | answer p refusals => exact ⟨rfl, rfl, rfl, rfl⟩
  | valve p retries write_error valve_error => exact valve_run_unmoved _ _ _ _ _
  | wheel => exact wheel_run_unmoved w

theorem run_all_unmoved (steps : List TestStep) (w : World) :
    Unmoved w (run_all steps w).world := by
  induction steps generalizing w with
  | nil => exact ⟨rfl, rfl, rfl, rfl⟩
  | cons s steps ih =>
      rw [run_all]
      cases h : (s.run w).error with
      | some error => exact s.run_unmoved w
      | none => exact (s.run_unmoved w).trans (ih (s.run w).world)

/-- The serial of the mode is `number`. -/
def Writes (len number : ℕ) (w : World) : Prop := list_value (w.zf_list6 w.choose) len = number

theorem Unmoved.writes {len number : ℕ} {w w' : World} (h : Unmoved w w')
    (hw : Writes len number w) : Writes len number w' := by
  rw [Writes, h.choose, h.zf_list6]
  exact hw

/-- The step goes on for the right readings at its point. -/
def TestStep.Decides (len number : ℕ) : TestStep → Prop
  | .exchange _ _ => True
  | .answer p refusals => ∀ w, Writes len number w →
      ((refusals.find? fun r => r.1 w) = none ↔ PointOk number p [w.uart_data])
  | .valve p _ _ _ => ∀ ns, PointOk number p ns ↔ 1 ∈ ns
  | .wheel => True

theorem level_of_dark {w : World} (h : IR_dark w = true) : level w = 0 := by
  simp only [IR_dark, decide_eq_true_eq] at h
  rw [level, h]
  rfl

theorem level_of_lit {w : World} (h : ¬ IR_dark w = true) : level w = 1 := by
  simp only [IR_dark, decide_eq_true_eq, Bool.not_eq_false] at h
  rw [level, h]
  rfl

/-- The valve has been seen open, and all commands were answered. -/
theorem valve_run_iff (p : Point) (write_error valve_error : UInt8) (n : ℕ) (w : World) :
    (valve_run p write_error valve_error n w).error = none ↔
      Answered (valve_run p write_error valve_error n w).readings ∧
        1 ∈ seen p (valve_run p write_error valve_error n w).readings := by
  induction n generalizing w with
  | zero =>
      rw [valve_run]
      by_cases h : IR_dark (look w) = true
      · simp [h, level_of_dark h]
      · simp [h, level_of_lit h]
  | succ n ih =>
      rw [valve_run]
      by_cases h : IR_dark (look w) = true
      · rw [if_pos h]
        dsimp only
        split_ifs with hflag
        · simp [hflag]
        · rw [not_not] at hflag
          simp only [Ended.after, ih, answered_append, seen_append, answered_cons_seen,
            answered_cons_exchange, answered_nil, hflag, level_of_dark h, seen_cons_self,
            seen_cons_exchange, seen_nil]
          simp
      · simp [h, level_of_lit h]

theorem valve_run_seen_other {p q : Point} (hq : p ≠ q) (write_error valve_error : UInt8)
    (n : ℕ) (w : World) : seen q (valve_run p write_error valve_error n w).readings = [] := by
  induction n generalizing w with
  | zero => rw [valve_run, seen_cons_ne hq, seen_nil]
  | succ n ih =>
      rw [valve_run]
      dsimp only
      split_ifs
      · rw [seen_cons_ne hq, seen_cons_exchange, seen_nil]
      · rw [Ended.after, seen_append, ih, seen_cons_ne hq, seen_cons_exchange, seen_nil]
        rfl
      · rw [seen_cons_ne hq, seen_nil]

theorem wait_run_readings (n : ℕ) (w : World) :
    Answered (wait_run n w).1 ∧ ∀ q : Point, q ≠ .wheel_turned → seen q (wait_run n w).1 = [] := by
  induction n generalizing w with
  | zero => exact ⟨answered_nil, fun _ _ => rfl⟩
  | succ n ih =>
      rw [wait_run]
      dsimp only
      split_ifs
      · exact ⟨by simp, fun q hq => by rw [seen_cons_ne hq.symm, seen_nil]⟩
      · obtain ⟨hans, hseen⟩ := ih (w.rt_pin_read IR_LED)
        exact ⟨by simpa using hans, fun q hq => by rw [seen_cons_ne hq.symm, hseen q hq]⟩

/-- **A step goes on exactly for the right readings.** -/
theorem TestStep.run_iff {len number : ℕ} {s : TestStep} (hs : s.Decides len number) {w : World}
    (hw : Writes len number w) :
    (s.run w).error = none ↔ Answered (s.run w).readings ∧
      ∀ p ∈ s.point, PointOk number p (seen p (s.run w).readings) := by
  cases s with
  | exchange c error => simp [TestStep.run, TestStep.point]
  | answer p refusals =>
      have h := hs w.get_UartData hw
      simp only [TestStep.run, Option.map_eq_none_iff, h, TestStep.point, Option.mem_some_iff,
        forall_eq', seen_cons_self, seen_nil, answered_cons_seen, answered_nil, true_and]
  | valve p retries write_error valve_error =>
      simp only [TestStep.run, TestStep.point, Option.mem_some_iff, forall_eq']
      rw [hs, valve_run_iff]
  | wheel =>
      obtain ⟨hanswered, -⟩ := wait_run_readings 4 ((w.write_IR_DET 0).write_IR_DET 1)
      simp only [TestStep.run, wheel_run, TestStep.point, Option.mem_some_iff, forall_eq',
        answered_append, hanswered, answered_cons_seen, answered_nil, true_and, seen_append,
        seen_cons_self, seen_nil, PointOk, List.getLast?_append, List.getLast?_singleton,
        Option.some_or, Option.some.injEq, level]
      cases ((wait_run 4 ((w.write_IR_DET 0).write_IR_DET 1)).2.rt_pin_read IR_LED).pin_level
        IR_LED <;> simp

theorem TestStep.seen_other {s : TestStep} {q : Point} (hq : q ∉ s.point) (w : World) :
    seen q (s.run w).readings = [] := by
  cases s with
  | exchange c error => rfl
  | answer p refusals =>
      simp only [TestStep.point, Option.mem_some_iff] at hq
      rw [TestStep.run, seen_cons_ne hq, seen_nil]
  | valve p retries write_error valve_error =>
      simp only [TestStep.point, Option.mem_some_iff] at hq
      exact valve_run_seen_other hq _ _ _ _
  | wheel =>
      simp only [TestStep.point, Option.mem_some_iff] at hq
      have hwait := (wait_run_readings 4 ((w.write_IR_DET 0).write_IR_DET 1)).2 q (Ne.symm hq)
      rw [TestStep.run, wheel_run, seen_append, hwait, seen_cons_ne hq, seen_nil]
      rfl

/-! ### What a whole test needs -/

/-- The points of the steps, in order. -/
def points (steps : List TestStep) : List Point := steps.filterMap TestStep.point

theorem seen_of_not_mem {q : Point} {steps : List TestStep} (hq : q ∉ points steps) (w : World) :
    seen q (run_all steps w).readings = [] := by
  induction steps generalizing w with
  | nil => rfl
  | cons s steps ih =>
      have hs : q ∉ s.point := by
        intro h
        exact hq (List.mem_filterMap.mpr ⟨s, List.mem_cons_self, h⟩)
      have hrest : q ∉ points steps := by
        intro h
        obtain ⟨s', hs', hp⟩ := List.mem_filterMap.mp h
        exact hq (List.mem_filterMap.mpr ⟨s', List.mem_cons_of_mem s hs', hp⟩)
      rw [run_all]
      cases h : (s.run w).error with
      | some error => exact TestStep.seen_other hs w
      | none =>
          rw [Ended.after, seen_append, TestStep.seen_other hs w, ih hrest]
          rfl

theorem mem_points_cons {s : TestStep} {steps : List TestStep} {p : Point} :
    p ∈ points (s :: steps) ↔ p ∈ s.point ∨ p ∈ points steps := by
  cases h : s.point with
  | none => simp [points, h]
  | some q => simp [points, h, eq_comm]

theorem points_nodup_cons {s : TestStep} {steps : List TestStep}
    (h : (points (s :: steps)).Nodup) :
    (points steps).Nodup ∧ ∀ p ∈ s.point, p ∉ points steps := by
  cases hs : s.point with
  | none => exact ⟨by simpa [points, hs] using h, by simp⟩
  | some q =>
      obtain ⟨hq, hrest⟩ := List.nodup_cons.mp (by simpa [points, hs] using h :
        (q :: points steps).Nodup)
      exact ⟨hrest, by simpa using hq⟩

/-- **A test passes exactly when every command was answered and every point has seen what it
must.** -/
theorem run_all_iff {len number : ℕ} {steps : List TestStep}
    (hall : ∀ s ∈ steps, s.Decides len number) (hnodup : (points steps).Nodup) {w : World}
    (hw : Writes len number w) :
    (run_all steps w).error = none ↔ Answered (run_all steps w).readings ∧
      ∀ p ∈ points steps, PointOk number p (seen p (run_all steps w).readings) := by
  induction steps generalizing w with
  | nil => simp [run_all, points]
  | cons s steps ih =>
      have hs := TestStep.run_iff (hall s List.mem_cons_self) hw
      obtain ⟨hrest, hdisj⟩ := points_nodup_cons hnodup
      rw [run_all]
      cases herr : (s.run w).error with
      | some error =>
          simp only [herr, reduceCtorEq, false_iff]
          rintro ⟨hanswered, hok⟩
          have hnone := hs.mpr ⟨hanswered, fun p hp => hok p (mem_points_cons.mpr (.inl hp))⟩
          rw [herr] at hnone
          cases hnone
      | none =>
          obtain ⟨hanswered, hok⟩ := hs.mp herr
          have ih := ih (fun s' hs' => hall s' (List.mem_cons_of_mem s hs')) hrest
            ((s.run_unmoved w).writes hw)
          simp only [Ended.after, ih, answered_append, seen_append, hanswered, true_and]
          refine and_congr_right fun _ => ⟨fun h p hp => ?_, fun h p hp => ?_⟩
          · obtain hp | hp := mem_points_cons.mp hp
            · rw [seen_of_not_mem (hdisj p hp), List.append_nil]
              exact hok p hp
            · rw [TestStep.seen_other (fun hps => hdisj p hps hp), List.nil_append]
              exact h p hp
          · have := h p (mem_points_cons.mpr (.inr hp))
            rwa [TestStep.seen_other (fun hps => hdisj p hps hp), List.nil_append] at this

/-! ### The steps of the test -/

theorem and_two_pow_eq_zero_iff (v i : ℕ) : v &&& 2 ^ i = 0 ↔ v.testBit i = false := by
  rw [Nat.and_two_pow, Nat.mul_eq_zero, or_iff_left (Nat.two_pow_pos i).ne', Bool.toNat_eq_zero]

theorem and_two_pow_ne_zero_iff (v i : ℕ) : v &&& 2 ^ i ≠ 0 ↔ v.testBit i = true := by
  rw [Ne, and_two_pow_eq_zero_iff, Bool.not_eq_false]

/-- The lowest `n` bits of a number, one by one. -/
theorem mod_two_pow_eq_iff (v : ℕ) {n c : ℕ} (hc : c < 2 ^ n) :
    v % 2 ^ n = c ↔ ∀ i < n, v.testBit i = c.testBit i := by
  constructor
  · rintro rfl i hi
    rw [Nat.testBit_mod_two_pow, decide_eq_true hi, Bool.true_and]
  · intro h
    apply Nat.eq_of_testBit_eq
    intro i
    rw [Nat.testBit_mod_two_pow]
    by_cases hi : i < n
    · rw [decide_eq_true hi, Bool.true_and, h i hi]
    · have hle : 2 ^ n ≤ 2 ^ i := Nat.pow_le_pow_right (by decide) (Nat.le_of_not_lt hi)
      rw [decide_eq_false hi, Bool.false_and, Nat.testBit_lt_two_pow (lt_of_lt_of_le hc hle)]

/-- No refusal applies to a status word with the valve-status and critical-escape bits set and all
others clear, and to no other. -/
theorem status_iff (v : ℕ) :
    (v &&& 0x02 = 0 ∧ v &&& 0x01 = 0 ∧ v &&& 0x04 = 0 ∧ v &&& 0x40 ≠ 0 ∧ v &&& 0x20 ≠ 0 ∧
      v &&& 0x10 = 0 ∧ v &&& 0x08 = 0 ∧ v &&& 0x80 = 0 ∧ v &&& 0x100 = 0 ∧ v &&& 0x200 = 0) ↔
      v % 0x400 = 0x60 := by
  have h0 : v &&& 0x01 = 0 ↔ v.testBit 0 = false := and_two_pow_eq_zero_iff v 0
  have h1 : v &&& 0x02 = 0 ↔ v.testBit 1 = false := and_two_pow_eq_zero_iff v 1
  have h2 : v &&& 0x04 = 0 ↔ v.testBit 2 = false := and_two_pow_eq_zero_iff v 2
  have h3 : v &&& 0x08 = 0 ↔ v.testBit 3 = false := and_two_pow_eq_zero_iff v 3
  have h4 : v &&& 0x10 = 0 ↔ v.testBit 4 = false := and_two_pow_eq_zero_iff v 4
  have h5 : v &&& 0x20 ≠ 0 ↔ v.testBit 5 = true := and_two_pow_ne_zero_iff v 5
  have h6 : v &&& 0x40 ≠ 0 ↔ v.testBit 6 = true := and_two_pow_ne_zero_iff v 6
  have h7 : v &&& 0x80 = 0 ↔ v.testBit 7 = false := and_two_pow_eq_zero_iff v 7
  have h8 : v &&& 0x100 = 0 ↔ v.testBit 8 = false := and_two_pow_eq_zero_iff v 8
  have h9 : v &&& 0x200 = 0 ↔ v.testBit 9 = false := and_two_pow_eq_zero_iff v 9
  rw [h0, h1, h2, h3, h4, h5, h6, h7, h8, h9, show (0x400 : ℕ) = 2 ^ 10 from rfl,
    mod_two_pow_eq_iff v (n := 10) (c := 0x60) (by decide)]
  constructor
  · rintro ⟨b1, b0, b2, b6, b5, b4, b3, b7, b8, b9⟩ i hi
    interval_cases i <;> assumption
  · intro h
    exact ⟨h 1 (by decide), h 0 (by decide), h 2 (by decide), h 6 (by decide), h 5 (by decide),
      h 4 (by decide), h 3 (by decide), h 7 (by decide), h 8 (by decide), h 9 (by decide)⟩

theorem test1_decides (len number : ℕ) : ∀ s ∈ test1_steps len, s.Decides len number := by
  intro s hs
  simp only [test1_steps, List.mem_cons, List.not_mem_nil, or_false] at hs
  obtain rfl | rfl | rfl | rfl | rfl | rfl | rfl | rfl | rfl | rfl | rfl | rfl | rfl | rfl := hs
  all_goals first | exact trivial | exact fun _ => Iff.rfl | intro w hw; rw [List.find?_eq_none]
  · simp only [List.forall_mem_cons, List.not_mem_nil, false_implies, implies_true, and_true,
      decide_eq_true_eq, ne_eq, not_not, PointOk, List.cons.injEq]
    rw [show list_value (w.zf_list6 w.choose) len = number from hw]
    exact eq_comm
  · simp only [List.forall_mem_cons, List.not_mem_nil, false_implies, implies_true, and_true,
      decide_eq_true_eq, ne_eq, not_not, PointOk, List.cons.injEq]
  · simp only [List.forall_mem_cons, List.not_mem_nil, false_implies, implies_true, and_true,
      decide_eq_true_eq, ne_eq, not_not, PointOk, List.map_cons, List.map_nil, List.cons.injEq]
    exact status_iff w.uart_data

theorem test1_points (len : ℕ) : points (test1_steps len) =
    [.valve_before, .wheel_turned, .MSID, .MSV, .status, .valve_after] := rfl

/-! ### How often the detector is read -/

theorem valve_run_length (p q : Point) (write_error valve_error : UInt8) (n : ℕ) (w : World) :
    (seen q (valve_run p write_error valve_error n w).readings).length ≤ n + 1 := by
  induction n generalizing w with
  | zero =>
      rw [valve_run]
      exact List.length_filterMap_le _ _
  | succ n ih =>
      have hone : ∀ m, (seen q [Reading.seen p m]).length ≤ 1 := fun m =>
        List.length_filterMap_le _ _
      rw [valve_run]
      dsimp only
      split_ifs
      · exact (hone _).trans (by omega)
      · rw [Ended.after, seen_append, List.length_append]
        have := hone (level (look w))
        exact (Nat.add_le_add this (ih _)).trans (by omega)
      · exact (hone _).trans (by omega)

theorem wait_run_length (q : Point) (n : ℕ) (w : World) :
    (seen q (wait_run n w).1).length ≤ n := by
  induction n generalizing w with
  | zero => exact le_rfl
  | succ n ih =>
      have hone : ∀ m, (seen q [Reading.seen .wheel_turned m]).length ≤ 1 := fun m =>
        List.length_filterMap_le _ _
      rw [wait_run]
      dsimp only
      split_ifs
      · exact (hone _).trans (by omega)
      · rw [← List.singleton_append, seen_append, List.length_append]
        have := hone (level (w.rt_pin_read IR_LED))
        have := ih (w.rt_pin_read IR_LED)
        omega

/-- How often a step reads at its point at most. -/
def TestStep.most : TestStep → ℕ
  | .exchange _ _ => 0
  | .answer _ _ => 1
  | .valve _ retries _ _ => retries + 1
  | .wheel => 5

theorem TestStep.seen_length (s : TestStep) (q : Point) (w : World) :
    (seen q (s.run w).readings).length ≤ s.most := by
  cases s with
  | exchange c error => exact le_rfl
  | answer p refusals => exact List.length_filterMap_le _ _
  | valve p retries write_error valve_error => exact valve_run_length _ _ _ _ _ _
  | wheel =>
      have hwait := wait_run_length q 4 ((w.write_IR_DET 0).write_IR_DET 1)
      rw [TestStep.run, wheel_run, seen_append, List.length_append]
      exact Nat.add_le_add hwait (List.length_filterMap_le _ _)

/-- A point of one step is read as often as that step reads it. -/
theorem run_all_seen_length {q : Point} {most : ℕ} {steps : List TestStep}
    (hmost : ∀ s ∈ steps, q ∈ s.point → s.most ≤ most) (hnodup : (points steps).Nodup) (w : World) :
    (seen q (run_all steps w).readings).length ≤ most := by
  induction steps generalizing w with
  | nil => exact Nat.zero_le _
  | cons s steps ih =>
      obtain ⟨hrest, hdisj⟩ := points_nodup_cons hnodup
      have ih := ih (fun s' hs' => hmost s' (List.mem_cons_of_mem s hs')) hrest (s.run w).world
      have hstep : (seen q (s.run w).readings).length ≤ most := by
        by_cases hq : q ∈ s.point
        · exact (s.seen_length q w).trans (hmost s List.mem_cons_self hq)
        · rw [TestStep.seen_other hq]
          exact Nat.zero_le _
      rw [run_all]
      cases (s.run w).error with
      | some error => exact hstep
      | none =>
          rw [Ended.after, seen_append]
          by_cases hq : q ∈ s.point
          · rw [seen_of_not_mem (hdisj q hq), List.append_nil]
            exact hstep
          · rw [TestStep.seen_other hq, List.nil_append]
            exact ih

/-- Three readings before the wheel turns, two behind it. -/
theorem test1_most (len : ℕ) : ∀ s ∈ test1_steps len,
    (.valve_before ∈ s.point → s.most ≤ 3) ∧ (.valve_after ∈ s.point → s.most ≤ 2) := by
  intro s hs
  simp only [test1_steps, List.mem_cons, List.not_mem_nil, or_false] at hs
  obtain rfl | rfl | rfl | rfl | rfl | rfl | rfl | rfl | rfl | rfl | rfl | rfl | rfl | rfl := hs
  all_goals simp [TestStep.point, TestStep.most]

/-! ### The codes of the failures -/

/-- A step fails with codes of failures only. -/
def TestStep.Coded : TestStep → Prop
  | .exchange _ error => IsError error
  | .answer _ refusals => ∀ r ∈ refusals, IsError r.2
  | .valve _ _ write_error valve_error => IsError write_error ∧ IsError valve_error
  | .wheel => True

theorem IsError.ne_zero {error : UInt8} (h : IsError error) : error ≠ 0 := by
  rintro rfl
  exact absurd h.1 (by decide)

theorem valve_run_error {p : Point} {write_error valve_error error : UInt8} {n : ℕ} {w : World}
    (h : (valve_run p write_error valve_error n w).error = some error) :
    error = write_error ∨ error = valve_error := by
  induction n generalizing w with
  | zero =>
      rw [valve_run] at h
      dsimp only at h
      split_ifs at h
      · exact .inr (Option.some.inj h).symm
  | succ n ih =>
      rw [valve_run] at h
      dsimp only at h
      split_ifs at h
      · exact .inl (Option.some.inj h).symm
      · exact ih h

theorem TestStep.run_error {s : TestStep} (hs : s.Coded) {w : World} {error : UInt8}
    (h : (s.run w).error = some error) : IsError error := by
  cases s with
  | exchange c e =>
      dsimp only [TestStep.run] at h
      split_ifs at h
      · exact (Option.some.inj h) ▸ hs
  | answer p refusals =>
      obtain ⟨r, hr, rfl⟩ := Option.map_eq_some_iff.mp h
      exact hs r (List.mem_of_find?_eq_some hr)
  | valve p retries write_error valve_error =>
      obtain rfl | rfl := valve_run_error h
      · exact hs.1
      · exact hs.2
  | wheel =>
      dsimp only [TestStep.run, wheel_run] at h
      split_ifs at h
      · exact (Option.some.inj h) ▸ (by decide : IsError VALVE_ERROR)

theorem run_all_error {error : UInt8} {steps : List TestStep} {w : World}
    (hall : ∀ s ∈ steps, s.Coded) (h : (run_all steps w).error = some error) : IsError error := by
  induction steps generalizing w with
  | nil => cases h
  | cons s steps ih =>
      rw [run_all] at h
      cases hs : (s.run w).error with
      | some e =>
          rw [hs] at h
          exact TestStep.run_error (hall s List.mem_cons_self) h
      | none =>
          rw [hs] at h
          exact ih (fun s' hs' => hall s' (List.mem_cons_of_mem s hs')) h

theorem test1_coded (len : ℕ) : ∀ s ∈ test1_steps len, s.Coded := by
  intro s hs
  simp only [test1_steps, List.mem_cons, List.not_mem_nil, or_false] at hs
  obtain rfl | rfl | rfl | rfl | rfl | rfl | rfl | rfl | rfl | rfl | rfl | rfl | rfl | rfl := hs
  all_goals first | decide | trivial | (unfold TestStep.Coded; decide) | skip
  · intro r hr
    rw [List.mem_singleton.mp hr]
    exact (by decide : IsError MSID_ERROR)

/-! ### The verdict -/

/-- The steps of a test of the state `w`. -/
def test_run (w : World) : Ended :=
  run_all (test1_steps (serial_len w.choose)) { w with MS_error := 0 }

/-- What `MS_thread_test`, started in `w`, reads of a controllable meter. -/
def test_readings (w : World) : List Reading := (test_run w).readings

/-- The state in which the test ends: success, or failure with a code. -/
def Ended.judge (e : Ended) : World :=
  match e.error with
  | some error => { e.world with MS := 4, MS_error := error }
  | none => { e.world with MS := 5, thread_time := 0 }

theorem Ended.go_on_pass (e : Ended) (n : ℕ) : e.go_on n pass = some e.judge := by
  unfold Ended.go_on Ended.judge
  cases e.error with
  | some error => rfl
  | none => rfl

/-- Success without a code, or failure with one. -/
theorem test_run_judge (w : World) :
    ((test_run w).error = none ∧ (test_run w).judge.MS = 5 ∧ (test_run w).judge.MS_error = 0) ∨
      ((test_run w).error ≠ none ∧ (test_run w).judge.MS = 4 ∧
        IsError (test_run w).judge.MS_error) := by
  have hmoved := run_all_unmoved (test1_steps (serial_len w.choose)) { w with MS_error := 0 }
  have hcodes := test1_coded (serial_len w.choose)
  cases h : (test_run w).error with
  | none =>
      left
      refine ⟨rfl, by simp only [Ended.judge, h], ?_⟩
      simp only [Ended.judge, h]
      exact hmoved.MS_error
  | some error =>
      right
      refine ⟨by simp, by simp only [Ended.judge, h], ?_⟩
      simp only [Ended.judge, h]
      exact run_all_error hcodes h

/-- The test passes exactly for the right readings. -/
theorem test_run_iff {w : World} (hstatus : ∀ v ∈ seen .status (test_readings w), v < 0x400) :
    (test_run w).error = none ↔ Answered (test_readings w) ∧
      seen .MSID (test_readings w) = [list_value (w.zf_list6 w.choose) (serial_len w.choose)] ∧
      seen .MSV (test_readings w) = [7] ∧ seen .status (test_readings w) = [0x60] ∧
      1 ∈ seen .valve_before (test_readings w) ∧
      (seen .wheel_turned (test_readings w)).getLast? = some 0 ∧
      1 ∈ seen .valve_after (test_readings w) := by
  have hiff := run_all_iff (test1_decides (serial_len w.choose)
    (list_value (w.zf_list6 w.choose) (serial_len w.choose))) (by rw [test1_points]; decide)
    (w := { w with MS_error := 0 }) rfl
  have hword : (seen .status (test_readings w)).map (· % 0x400) = seen .status (test_readings w) := by
    conv_rhs => rw [← List.map_id (seen .status (test_readings w))]
    exact List.map_congr_left fun v hv => Nat.mod_eq_of_lt (hstatus v hv)
  rw [test_run, hiff, test1_points]
  simp only [List.forall_mem_cons, List.not_mem_nil, false_implies, implies_true, and_true, PointOk]
  change Answered (test_readings w) ∧ 1 ∈ seen .valve_before (test_readings w) ∧
    (seen .wheel_turned (test_readings w)).getLast? = some 0 ∧
    seen .MSID (test_readings w) = _ ∧ seen .MSV (test_readings w) = [7] ∧
    (seen .status (test_readings w)).map (· % 0x400) = [0x60] ∧
    1 ∈ seen .valve_after (test_readings w) ↔ _
  rw [hword]
  tauto

theorem MS_thread_test1_exec (n : ℕ) (w : World) :
    MS_thread_test1.exec n w = (test1 (serial_len w.choose)).exec n w := by
  rw [MS_thread_test1, exec_ite, serial_len]
  by_cases h : w.choose = 1
  · rw [if_pos h, if_pos (by simpa using h)]
  · rw [if_neg h, if_neg (by simpa using h)]

theorem test_run_unmoved (w : World) : (test_run w).judge.choose = w.choose ∧
    (test_run w).judge.zf_list6 = w.zf_list6 ∧ (test_run w).judge.dfs = w.dfs := by
  have h := run_all_unmoved (test1_steps (serial_len w.choose)) { w with MS_error := 0 }
  unfold Ended.judge
  split
  · exact ⟨h.choose, h.zf_list6, h.dfs⟩
  · exact ⟨h.choose, h.zf_list6, h.dfs⟩

/-- The record of a test that has ended, as an append to the log of meter records. -/
def test_record (w : World) (choose : Fin 3) : Append :=
  .ms choose (w.zf_list6 choose) (test_run w).judge.MS_error (test_run w).judge.get_time.my_time

/-- The record that is written with the verdict in `v`. -/
theorem test_recorded {v w : World} {c : Fin 3} (hchoose : v.choose = c) (hlists : v.zf_list6 = w.zf_list6)
    (hdfs : v.dfs = w.dfs) :
    (v.get_time.set_record.set_Record_txt ((v.get_time.set_record.dfs.get_recordled_data + 1) % 0x10000)
      v.get_time.set_record.dfs.get_ax5045len_data).dfs =
      (Append.ms c (w.zf_list6 c) v.MS_error v.get_time.my_time).exec w.dfs := by
  have hrecord : v.get_time.set_record.dfs =
      w.dfs.set_record c (w.zf_list6 c) v.MS_error v.get_time.my_time := by
    rw [← hchoose, ← hlists, ← hdfs]
    rfl
  rw [hrecord]
  unfold World.set_Record_txt
  rw [hrecord]
  rfl

/-- `MS_thread_test` for a controllable meter: verdict, time, record. -/
theorem MS_thread_test_exec (n : ℕ) {w : World} {c : Fin 3} (hc : w.choose = c) (h0 : c ≠ 0) :
    ∃ w', MS_thread_test.exec n w = some w' ∧ w'.MS = (test_run w).judge.MS ∧
      w'.MS_error = (test_run w).judge.MS_error ∧ w'.dfs = (test_record w c).exec w.dfs := by
  obtain ⟨hchoose, hlists, hdfs⟩ := test_run_unmoved w
  have hne : w.choose ≠ 0 := fun h => h0 (Fin.ext (hc.symm.trans h))
  have hrun : MS_thread_test1.exec n { w with MS_error := 0 } = some (test_run w).judge := by
    rw [MS_thread_test1_exec, test1_eq, progs_exec, Ended.go_on_pass]
    rfl
  unfold test_record
  generalize (test_run w).judge = v at hchoose hlists hdfs hrun ⊢
  have hlt : v.get_time.choose < 3 := by
    have hv : v.get_time.choose = c := hchoose.trans hc
    omega
  simp only [MS_thread_test, exec_block_cons, exec_block_nil, exec_act, exec_ite, exec_check,
    Option.bind_some, hne, decide_false, Bool.false_eq_true, if_false, hrun, hlt, decide_true,
    if_true]
  exact ⟨_, rfl, rfl, rfl, test_recorded (hchoose.trans hc) hlists hdfs⟩

/-- **The verdict on a controllable meter**: the test ends with success or with a failure and its
code, whatever is read.  It succeeds exactly if every command was answered, the meter has returned
the serial that was written, the value `7` and the status `0x60`, and the valve was seen open
before, closed behind the turn of the wheel and open again.  The record of the test carries the
code `0` exactly then. -/
theorem test1_verdict (n : ℕ) {w : World} {c : Fin 3} (hc : w.choose = c) (h0 : c ≠ 0)
    (hstatus : ∀ v ∈ seen .status (test_readings w), v < 0x400) :
    ∃ w', MS_thread_test.exec n w = some w' ∧
      (w'.MS = 5 ∧ w'.MS_error = 0 ∨ w'.MS = 4 ∧ w'.MS_error ≠ 0) ∧
      (w'.MS = 5 ↔ Answered (test_readings w) ∧
        seen .MSID (test_readings w) = [list_value (w.zf_list6 w.choose) (serial_len w.choose)] ∧
        seen .MSV (test_readings w) = [7] ∧ seen .status (test_readings w) = [0x60] ∧
        1 ∈ seen .valve_before (test_readings w) ∧
        (seen .wheel_turned (test_readings w)).getLast? = some 0 ∧
        1 ∈ seen .valve_after (test_readings w)) ∧
      (seen .valve_before (test_readings w)).length ≤ 3 ∧
      (seen .valve_after (test_readings w)).length ≤ 2 ∧
      w'.dfs = (test_record w c).exec w.dfs ∧
      (is_pass w.choose (test_record w c).record = true ↔ w'.MS = 5) := by
  obtain ⟨w', hexec, hMS, hcode, hdfs⟩ := MS_thread_test_exec n hc h0
  have hmost (p : Point) (most : ℕ)
      (h : ∀ s ∈ test1_steps (serial_len w.choose), p ∈ s.point → s.most ≤ most) :
      (seen p (test_readings w)).length ≤ most :=
    run_all_seen_length h (by rw [test1_points]; decide) _
  have hpass := ms_record_is_pass w.choose (w.zf_list6 c) (test_run w).judge.MS_error
    (test_run w).judge.get_time.my_time
  have hrecord : (test_record w c).record = ms_record w.choose (w.zf_list6 c)
      (test_run w).judge.MS_error (test_run w).judge.get_time.my_time := by rw [hc]; rfl
  have hjudge := test_run_judge w
  rw [← hMS, ← hcode] at hjudge
  refine ⟨w', hexec, ?_, ?_, hmost _ _ fun s hs => (test1_most _ s hs).1,
    hmost _ _ fun s hs => (test1_most _ s hs).2, hdfs, ?_⟩
  · obtain ⟨-, h5, hzero⟩ | ⟨-, h4, herror⟩ := hjudge
    · exact .inl ⟨h5, hzero⟩
    · exact .inr ⟨h4, herror.ne_zero⟩
  · rw [← test_run_iff hstatus]
    obtain ⟨hnone, h5, -⟩ | ⟨hsome, h4, -⟩ := hjudge
    · simp [hnone, h5]
    · simp [hsome, h4]
  · rw [hrecord, hpass (hjudge.imp (hcode ▸ ·.2.2) (hcode ▸ ·.2.2)), ← hcode, decide_eq_true_eq]
    obtain ⟨-, h5, hzero⟩ | ⟨-, h4, herror⟩ := hjudge
    · simp [h5, hzero]
    · simp [h4, herror.ne_zero]

/-- A meter with the serial `123456` on a bench that reads what it must. -/
def good_meter : World :=
  { World.start Fs.empty (fun n =>
      { button := 16
        pin := fun _ => n = 3 ∨ n = 14
        get_time := Vector.replicate 7 0
        get_date := Vector.replicate 7 0
        uart_flag := UART_READ_OK
        uart_data := if n = 7 then 123456 else if n = 9 then 7 else 0x60 }) [] with
    MS := 3
    choose := 2 }

theorem test1_verdict_good_meter : ∃ w', MS_thread_test.exec 0 good_meter = some w' ∧ w'.MS = 5 ∧
    w'.dfs = (test_record good_meter 2).exec good_meter.dfs ∧
    is_pass 2 (test_record good_meter 2).record = true := by
  obtain ⟨w', hexec, -, hiff, -, -, hdfs, hrecord⟩ :=
    test1_verdict 0 (w := good_meter) (c := 2) rfl (by decide) (by decide +kernel)
  have h5 : w'.MS = 5 := by
    apply hiff.mpr
    decide +kernel
  exact ⟨w', hexec, h5, hdfs, hrecord.mpr h5⟩

end MeterTester
