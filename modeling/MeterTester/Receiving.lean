import MeterTester.Driver

/-! # The receiver and the state that says it is on: `Radio_4068.c`, `Radio_Common.c`

`ubRFState = trxstate_rx` says that the chip receives: `PWRMODE` is `FULL_RX` and the FIFO may
interrupt (`Receiving`).  Five functions enter the state.  `rf_4068_Init` switches the receiver on
behind `rf_startup`, and `Ax5043Receiver_Continuous` does so after every reception; `rf_restart`,
with which a transmission ends, powers the chip down, masks its interrupts and enters the state
with the receiver off.

`receiver_runs` is about runs of interrupts, transmissions and timeouts from any state that
`rf_4068_Init` can end in: as long as the chip is not restarted (`Restarts`) the state is right,
and the first restart makes it wrong. -/

namespace MeterTester

open Interleave Interleave.Prog Ax5043

/-! ### Runs -/

/-- An interrupt that strikes while another thread is at work. -/
def Interrupt (r r' : Ax5043) : Prop := ∃ n, rf_4068_task_callback.unchecked.exec n r = some r'

/-- What `rf_4068_Init` may leave, whatever interrupts strike meanwhile. -/
def Initialized (r : Ax5043) : Prop :=
  ∃ r₀ : Ax5043, r₀.set_registers = set_registers_4068 ∧
    Reach Interrupt rf_4068_Init.unchecked r₀ .skip r

/-- What happens to the driver afterwards. -/
inductive RadioEvent where
  | interrupt
  | send (Buf : ℕ → UInt8) (Length : UInt8)
  | timeout

def RadioEvent.handler : RadioEvent → Prog Ax5043
  | interrupt => rf_4068_task_callback
  | send Buf Length => Normal_send Buf Length
  | timeout => rf_4068_send_timer_callback

/-- The handler of `e`, called in `r`, returns in `r'`. -/
def Handles (e : RadioEvent) (r r' : Ax5043) : Prop := ∃ n, e.handler.unchecked.exec n r = some r'

/-- The receiver is on and may interrupt. -/
def Receiving (r : Ax5043) : Prop :=
  r.reg REG_AX5043_PWRMODE = AX5043_PWRSTATE_FULL_RX ∧ r.reg REG_AX5043_IRQMASK0 &&& 0x01 ≠ 0

/-- The state of the driver says that the receiver is on only when it is. -/
def Agrees (r : Ax5043) : Prop := r.ubRFState = trxstate_rx → Receiving r

/-- The handler of the event restarts the chip: the timeout of a transmission, and the interrupt
behind a transmission that finds the radio idle. -/
def Restarts (r : Ax5043) : RadioEvent → Prop
  | .interrupt => r.ubRFState = trxstate_tx_waitdone ∧
      (r.seen REG_AX5043_RADIOEVENTREQ0).shown REG_AX5043_RADIOSTATE = 0
  | .send _ _ => False
  | .timeout => r.ubRFState ≠ trxstate_rx

/-- Runs of events of which none restarts the chip. -/
def Run : Ax5043 → Ax5043 → Prop :=
  Relation.ReflTransGen fun r r' => ∃ e, ¬ Restarts r e ∧ Handles e r r'

/-- A table that does not switch the chip on by itself. -/
def QuietTable (RegValue : Registers 126) : Prop :=
  ∀ x ∈ RegValue.toList, x.1.toNat % 0x1000 ≠ REG_AX5043_PWRMODE

instance (RegValue : Registers 126) : Decidable (QuietTable RegValue) :=
  decidable_of_iff (RegValue.toList.all fun x => x.1.toNat % 0x1000 ≠ REG_AX5043_PWRMODE) (by
    simp only [QuietTable, List.all_eq_true, decide_eq_true_eq])

example : QuietTable set_registers_4068 := by decide +kernel

/-! ### Entering the state -/

/-- The receiver is said to be on. -/
def InRx (r : Ax5043) : Prop := r.ubRFState = trxstate_rx

/-- The receiver is not said to be on. -/
def NotRx (r : Ax5043) : Prop := r.ubRFState ≠ trxstate_rx

/-- The statement leaves the state of the driver alone. -/
def SameState (r r' : Ax5043) : Prop := r'.ubRFState = r.ubRFState

@[simp] theorem seen_ubRFState (r : Ax5043) (a : ℕ) : (r.seen a).ubRFState = r.ubRFState := by
  unfold seen
  split <;> rfl

@[simp] theorem write_ubRFState (r : Ax5043) (a : ℕ) (v : UInt8) :
    (r.write a v).ubRFState = r.ubRFState := rfl

theorem SetRegisters_RX_same : Ax5043SetRegisters_RX.All SameState := by
  refine ⟨⟨?_, ⟨?_, ?_, trivial⟩, trivial⟩, ⟨⟨?_, ?_, trivial⟩, trivial⟩, trivial⟩
  · exact fun r => rfl
  · exact fun r => rfl
  · exact fun r => rfl
  · intro r
    dsimp only [SameState]
    split <;> simp
  · intro r
    dsimp only [SameState]
    split <;> simp

theorem SetRegisters_RX_keeps : Ax5043SetRegisters_RX.Keeps InRx :=
  SetRegisters_RX_same.keeps fun _ _ he hr => he.trans hr

theorem keeps_true : ∀ p : Prog Ax5043, p.Keeps fun _ => True
  | .skip => trivial
  | .act _ => fun _ _ => trivial
  | .check _ => trivial
  | .seq p q => ⟨keeps_true p, keeps_true q⟩
  | .ite _ p q => ⟨keeps_true p, keeps_true q⟩
  | .loop _ p => keeps_true p

section ends
variable {n : ℕ}

theorem ends_true (p : Prog Ax5043) : Ends n (fun _ => True) p fun _ => True :=
  fun _ _ _ _ => trivial

theorem receiver_continuous_ends :
    Ends n (fun _ => True) Ax5043Receiver_Continuous.unchecked fun r => InRx r ∧ Receiving r := by
  intro r r' _ h
  obtain rfl := Option.some.inj h
  exact ⟨rfl, rfl, show (0x01 : UInt8) &&& 0x01 ≠ 0 by decide⟩

theorem rx_interrupt_ends :
    Ends n (fun _ => True) rx_interrupt.unchecked fun r => InRx r ∧ Receiving r := by
  rw [rx_interrupt, unchecked_block]
  refine .block_cons (ends_true _) (.block_cons (ends_true _) ?_)
  refine .block_cons receiver_continuous_ends (.block_last (Ends.cond_keeps ?_))
  exact Ends.act fun r h => h

/-- The end of a transmission that finds the radio busy enters no state. -/
theorem tx_end_busy :
    Ends n (fun r => NotRx r ∧ (r.seen REG_AX5043_RADIOEVENTREQ0).shown REG_AX5043_RADIOSTATE ≠ 0)
      tx_end.unchecked NotRx := by
  rw [tx_end, unchecked_block]
  refine .block_cons (R := fun r => NotRx r ∧ r.shown REG_AX5043_RADIOSTATE ≠ 0) (.act ?_) ?_
  · intro r hr
    exact ⟨by simpa [NotRx] using hr.1, hr.2⟩
  refine .block_cons (R := fun r => NotRx r ∧ r.radiostate ≠ 0) (.act ?_) ?_
  · intro r hr
    exact ⟨by simpa [NotRx] using hr.1, hr.2⟩
  refine .block_last (.cond ?_ fun r hr _ => hr.1)
  intro r _ hr
  exact absurd (of_decide_eq_true hr.2) hr.1.2

@[simp] theorem puts_ubRFState (bytes : List UInt8) : ∀ r : Ax5043,
    (r.puts bytes).ubRFState = r.ubRFState := by
  induction bytes with
  | nil => exact fun r => rfl
  | cons v bytes ih => exact fun r => ih (r.write REG_AX5043_FIFODATA v)

theorem tx_begin_keeps : tx_begin.Keeps NotRx := by
  refine ⟨?_, ?_, ?_, ?_, ?_, ?_, trivial⟩
  · intro r hr
    simpa [NotRx] using hr
  · exact fun r hr => hr
  · exact fun r hr => hr
  · exact fun r hr => hr
  · exact fun r _ => show trxstate_tx_longpreamble ≠ trxstate_rx by decide
  · intro r hr
    dsimp only [NotRx]
    split <;> simpa [NotRx] using hr

@[simp] theorem put_bits_ubRFState (r : Ax5043) (byte : UInt8) (k : ℕ) :
    (r.put_bits byte k).ubRFState = r.ubRFState := by simp [put_bits]

@[simp] theorem append_bits_ubRFState (r : Ax5043) : r.append_bits.ubRFState = r.ubRFState := by
  unfold append_bits
  split <;> simp

@[simp] theorem preamble_rest_ubRFState (r : Ax5043) : r.preamble_rest.ubRFState = r.ubRFState := by
  unfold preamble_rest
  dsimp only
  split_ifs <;> simp

@[simp] theorem SpiWriteData_ubRFState (pBuf : ℕ) (Length : UInt8) (r : Ax5043) :
    (SpiWriteData pBuf Length r).ubRFState = r.ubRFState := by
  unfold SpiWriteData
  induction List.range Length.toNat generalizing r with
  | nil => rfl
  | cons i is ih => exact ih (r.write REG_AX5043_FIFODATA (r.load (pBuf + i)))

@[simp] theorem read_free_ubRFState (r : Ax5043) : r.read_free.ubRFState = r.ubRFState := by
  unfold read_free
  dsimp only
  split <;> simp

theorem shortpreamble_notRx {r : Ax5043} (hr : NotRx r) : NotRx r.shortpreamble := by
  unfold shortpreamble
  dsimp only [NotRx]
  split
  · split
    · exact hr
    · split
      · exact show trxstate_tx_packet ≠ trxstate_rx by decide
      · simpa [NotRx] using hr
  · simpa [NotRx] using hr

theorem longpreamble_notRx {r : Ax5043} (hr : NotRx r) : NotRx r.longpreamble := by
  unfold longpreamble
  split
  · exact shortpreamble_notRx (show trxstate_tx_shortpreamble ≠ trxstate_rx by decide)
  · dsimp only [NotRx]
    split
    · exact hr
    · simpa [NotRx] using hr

theorem packet_notRx {r : Ax5043} (hr : NotRx r) : NotRx r.packet := by
  unfold packet
  dsimp only [NotRx]
  split
  · exact hr
  · simpa [NotRx] using hr

theorem TransmitData_turn_notRx {r : Ax5043} (hr : NotRx r) : NotRx r.TransmitData_turn := by
  have hfree : NotRx r.read_free := by simpa [NotRx] using hr
  unfold TransmitData_turn
  dsimp only
  split
  · exact longpreamble_notRx hfree
  · split
    · exact shortpreamble_notRx hfree
    · split
      · exact packet_notRx hfree
      · exact hfree

theorem TransmitData_keeps : TransmitData.Keeps NotRx := by
  refine ⟨?_, ?_, ⟨⟨?_, trivial⟩, ⟨?_, trivial⟩, trivial⟩, trivial⟩
  · exact fun r hr => hr
  · exact fun r hr => TransmitData_turn_notRx hr
  · exact fun r hr => hr
  · refine ⟨fun r hr => hr, fun r _ => ?_, fun r hr => hr, fun r hr => hr, trivial⟩
    exact show trxstate_tx_waitdone ≠ trxstate_rx by decide

theorem notRx_of_eq {r : Ax5043} {k : ℕ} (hr : r.ubRFState = k) (hk : k ≠ trxstate_rx) : NotRx r :=
  fun h => hk (hr.symm.trans h)

/-- An interrupt that ends a wait. -/
theorem enters_notRx {p : Prog Ax5043} {k : ℕ} (hk : k ≠ trxstate_rx) :
    Ends n (fun _ => True) (block [p, act fun r => { r with ubRFState := k }]).unchecked NotRx := by
  rw [unchecked_block]
  exact .block_cons (ends_true _) (.block_last (.act fun r _ => hk))

/-- The interrupt enters `trxstate_rx` only with the receiver on, unless it restarts the chip. -/
theorem interrupt_agrees :
    Ends n (fun r => ¬ Restarts r .interrupt) rf_4068_task_callback.unchecked Agrees := by
  have hof : ∀ r, NotRx r → Agrees r := fun r hr h => absurd h hr
  -- an interrupt of a transmission, in a state other than `trxstate_rx`
  have hkeeps : ∀ {p : Prog Ax5043} {k : ℕ}, p.Keeps NotRx → k ≠ trxstate_rx →
      Ends n (fun r => ¬ Restarts r .interrupt ∧ r.ubRFState = k) p.unchecked Agrees :=
    fun hp hk => ((Ends.of_keeps hp.unchecked).post hof).pre fun r hr => notRx_of_eq hr.2 hk
  rw [rf_4068_task_callback, unchecked_switch_default]
  refine Ends.switch_default ?_ ?_
  · simp only [List.map_cons, List.map_nil, List.forall_mem_cons, List.not_mem_nil, false_implies,
      implies_true, and_true]
    refine ⟨?_, ?_, ?_, ?_, ?_, ?_, ?_, ?_, ?_⟩
    · exact (rx_interrupt_ends.pre fun _ _ => trivial).post fun r h _ => h.2
    · exact ((enters_notRx (by decide)).pre fun _ _ => trivial).post hof
    · exact ((enters_notRx (by decide)).pre fun _ _ => trivial).post hof
    · exact ((enters_notRx (by decide)).pre fun _ _ => trivial).post hof
    · exact hkeeps ⟨tx_begin_keeps, TransmitData_keeps, fun r hr => hr, trivial⟩ (by decide)
    · exact hkeeps TransmitData_keeps (by decide)
    · exact hkeeps TransmitData_keeps (by decide)
    · exact hkeeps TransmitData_keeps (by decide)
    · exact (tx_end_busy.post hof).pre fun r hr =>
        ⟨notRx_of_eq hr.2 (by decide), fun h => hr.1 ⟨hr.2, h⟩⟩
  · refine ((Ends.of_keeps ?_).post hof).pre fun r hr => ?_
    · exact ⟨fun r hr => hr, fun r hr => hr, trivial⟩
    · exact hr.2 _ (List.mem_map_of_mem (List.mem_cons_self))

/-- **A reception leaves the receiver on.** -/
theorem interrupt_rx : Ends n InRx rf_4068_task_callback.unchecked fun r => InRx r ∧ Receiving r := by
  rw [rf_4068_task_callback, unchecked_switch_default]
  exact .ite (rx_interrupt_ends.pre fun _ _ => trivial) fun r _ hr _ =>
    absurd (show r.ubRFState = trxstate_rx from hr.1) (of_decide_eq_false hr.2)

/-- A transmission begins outside `trxstate_rx`. -/
theorem send_notRx (Buf : ℕ → UInt8) (Length : UInt8) :
    Ends n (fun _ => True) (Normal_send Buf Length).unchecked NotRx := by
  rw [Normal_send, unchecked_block]
  refine .block_cons (ends_true _) (.block_last ?_)
  rw [transmit_packet_task, unchecked_block]
  refine Ends.block_drop 9 (ends_true _) (.block_cons (R := NotRx) (.act fun r _ => ?_) (.of_keeps ?_))
  · exact show trxstate_tx_xtalwait ≠ trxstate_rx by decide
  · refine ⟨fun r hr => hr, fun r hr => hr, fun r hr => ?_, trivial⟩
    simpa [NotRx] using hr

/-- **A handler that does not restart the chip keeps the agreement.** -/
theorem handler_agrees (e : RadioEvent) :
    Ends n (fun r => Agrees r ∧ ¬ Restarts r e) e.handler.unchecked Agrees := by
  cases e with
  | interrupt => exact interrupt_agrees.pre fun r hr => hr.2
  | send Buf Length =>
      exact ((send_notRx Buf Length).pre fun _ _ => trivial).post fun r hr h => absurd h hr
  | timeout =>
      refine Ends.cond (fun r r' hr _ => ?_) fun r hr _ => hr.1
      exact absurd (of_decide_eq_true hr.2) hr.1.2

end ends

/-! ### The restart -/

section restart
variable {n : ℕ}

/-- The register table is quiet. -/
structure Whole (r : Ax5043) : Prop where
  quiet : QuietTable r.RegValue

theorem Whole.seen {r : Ax5043} (hr : Whole r) (a : ℕ) : Whole (r.seen a) := by
  unfold Ax5043.seen
  split
  · exact ⟨hr.quiet⟩
  · exact hr

theorem Whole.write {r : Ax5043} (hr : Whole r) (a : ℕ) (v : UInt8) : Whole (r.write a v) :=
  ⟨hr.quiet⟩

/-- The chip is powered down, and the table leaves it so. -/
structure Off (r : Ax5043) : Prop where
  PWRMODE : r.reg REG_AX5043_PWRMODE = AX5043_PWRSTATE_POWERDOWN
  quiet : QuietTable r.RegValue

theorem Off.write {r : Ax5043} (hr : Off r) {a : ℕ} (ha : a ≠ REG_AX5043_PWRMODE) (v : UInt8) :
    Off (r.write a v) := by
  refine ⟨?_, hr.quiet⟩
  exact (if_neg ha.symm).trans hr.PWRMODE

theorem Off.seen {r : Ax5043} (hr : Off r) (a : ℕ) : Off (r.seen a) := by
  unfold Ax5043.seen
  split
  · exact ⟨hr.PWRMODE, hr.quiet⟩
  · exact hr

theorem quiet_row {RegValue : Registers 126} (h : QuietTable RegValue) (i : ℕ) :
    (row RegValue i).1.toNat % 0x1000 ≠ REG_AX5043_PWRMODE := by
  unfold row
  rw [List.getD_eq_getElem?_getD]
  cases hi : RegValue.toList[i]? with
  | none => decide
  | some x => exact h x (List.mem_of_getElem? hi)

theorem InitAx5043REG_off : InitAx5043REG.Keeps Off := by
  refine ⟨⟨?_, ⟨?_, ?_, trivial⟩, trivial⟩, ?_, ?_, ?_, trivial⟩
  · exact fun r hr => ⟨hr.PWRMODE, hr.quiet⟩
  · exact fun r hr => hr.write (quiet_row hr.quiet r.init_i) _
  · exact fun r hr => ⟨hr.PWRMODE, hr.quiet⟩
  · exact fun r hr => (hr.seen _).write (by decide) _
  · exact fun r hr => hr.write (by decide) _
  · exact fun r hr => hr.write (a := REG_AX5043_PKTSTOREFLAGS % 0x1000) (by decide) _

theorem write_FREQA_off : write_FREQA.Keeps Off :=
  ⟨fun _ hr => hr.write (by decide) _, fun _ hr => hr.write (by decide) _,
    fun _ hr => hr.write (by decide) _, fun _ hr => hr.write (by decide) _, trivial⟩

/-- **A restart enters `trxstate_rx` with the chip powered down.** -/
theorem restart_off : Ends n Whole rf_restart.unchecked fun r => InRx r ∧ Off r := by
  rw [rf_restart, unchecked_block]
  refine .block_cons (R := Whole) (.of_keeps ?_) ?_
  · exact ⟨fun _ hr => hr.write _ _, fun _ hr => hr.write _ _, fun _ hr => hr.write _ _,
      fun _ hr => hr.write _ _, fun _ hr => ⟨hr.quiet⟩, fun _ hr => hr.write _ _, trivial⟩
  refine .block_cons (R := Off) (fun r r' hr h => ?_) ?_
  · obtain rfl := Option.some.inj h
    exact ⟨rfl, hr.quiet⟩
  refine Ends.block_drop 7 (R := Off) (.of_keeps ?_) (.block_last (.act fun r hr => ⟨rfl, ?_⟩))
  · exact ⟨fun _ hr => ⟨rfl, hr.quiet⟩, fun _ hr => hr.write (by decide) _,
      fun _ hr => hr.write (by decide) _, fun _ hr => hr.write (by decide) _,
      InitAx5043REG_off.unchecked, fun _ hr => hr.write (by decide) _,
      write_FREQA_off.unchecked, trivial⟩
  · exact ⟨hr.PWRMODE, hr.quiet⟩

/-- Before a restart the end of the transmission is masked. -/
theorem masked_restart_off :
    Ends n Whole
      (block [SpiWriteSingleAddressRegister REG_AX5043_RADIOEVENTMASK0 fun _ => 0x00,
        rf_restart]).unchecked fun r => InRx r ∧ Off r := by
  rw [unchecked_block]
  exact .block_cons (R := Whole) (.act fun r hr => hr.write _ _) (.block_last restart_off)

theorem Receiving.not_off {r : Ax5043} (h : Receiving r) : ¬ Off r := by
  intro hoff
  exact absurd (h.1.symm.trans hoff.PWRMODE) (by decide)

theorem tx_end_off :
    Ends n (fun r => Whole r ∧
        (r.seen REG_AX5043_RADIOEVENTREQ0).shown REG_AX5043_RADIOSTATE = 0)
      tx_end.unchecked fun r => InRx r ∧ Off r := by
  rw [tx_end, unchecked_block]
  refine .block_cons (R := fun r => Whole r ∧ r.shown REG_AX5043_RADIOSTATE = 0)
    (.act fun r hr => ⟨hr.1.seen _, hr.2⟩) ?_
  refine .block_cons (R := fun r => Whole r ∧ r.radiostate = 0)
    (.act fun r hr => ⟨⟨(hr.1.seen _).quiet⟩, hr.2⟩) ?_
  refine .block_last (.cond ?_ fun r hr hc => ?_)
  · exact masked_restart_off.pre fun r hr => hr.1.1
  · exact absurd hr.2 (of_decide_eq_false hc)

/-- A handler that restarts the chip. -/
theorem handler_off (e : RadioEvent) :
    Ends n (fun r => Whole r ∧ Restarts r e) e.handler.unchecked fun r => InRx r ∧ Off r := by
  cases e with
  | interrupt =>
      intro r r' hr h
      have hcase : rf_4068_task_callback.unchecked.exec n r = tx_end.unchecked.exec n r := by
        rw [rf_4068_task_callback, exec_unchecked_switch_default, hr.2.1]
        rfl
      exact tx_end_off r r' ⟨hr.1, hr.2.2⟩ (hcase.symm.trans h)
  | send Buf Length => exact fun r r' hr _ => hr.2.elim
  | timeout =>
      apply Ends.cond (masked_restart_off.pre fun r hr => hr.1.1)
      intro r hr hc
      exact absurd (show r.ubRFState ≠ trxstate_rx from hr.2) (of_decide_eq_false hc)

end restart

/-! ### Switching on -/

section init

theorem triple_true (p : Prog Ax5043) : Triple Interrupt (fun _ => True) (fun _ => True) p fun _ => True :=
  .of_keeps ⟨fun _ _ _ _ => trivial, fun _ _ => trivial⟩ (keeps_true p)

/-- No interrupt leaves `trxstate_rx`, and behind one the receiver is on. -/
theorem Interrupt.rx {r r' : Ax5043} (h : Interrupt r r') (hr : InRx r) : InRx r' ∧ Receiving r' := by
  obtain ⟨n, h⟩ := h
  exact interrupt_rx r r' hr h

theorem holds_inRx : Holds Interrupt (fun _ => True) InRx :=
  ⟨fun _ _ hr h => (h.rx hr).1, fun _ _ => trivial⟩

theorem holds_receiving : Holds Interrupt (fun _ => True) fun r => InRx r ∧ Receiving r :=
  ⟨fun _ _ hr h => h.rx hr.1, fun _ _ => trivial⟩

theorem rf_startup_inRx :
    Triple Interrupt (fun _ => True) (fun _ => True) rf_startup.unchecked InRx := by
  rw [rf_startup, unchecked_block]
  refine .block_drop 25 (fun p _ => triple_true p) (.block_last holds_inRx ?_)
  exact .act ⟨fun _ _ _ _ => trivial, fun _ _ => trivial⟩ holds_inRx fun r _ => rfl

/-- The receiver is on already before the state is entered once more. -/
theorem Ax5043ReceiverON_receiving :
    Triple Interrupt (fun _ => True) InRx Ax5043ReceiverON.unchecked
      fun r => InRx r ∧ Receiving r := by
  have hon : Holds Interrupt (fun _ => True) fun r =>
      InRx r ∧ r.reg REG_AX5043_PWRMODE = AX5043_PWRSTATE_FULL_RX :=
    ⟨fun _ _ hr h => ⟨(h.rx hr.1).1, (h.rx hr.1).2.1⟩, fun _ _ => trivial⟩
  rw [Ax5043ReceiverON, unchecked_block]
  refine .block_drop 4 (fun p hp => .of_keeps holds_inRx ?_) ?_
  · simp only [List.map_cons, List.take_succ_cons, List.take_zero, List.mem_cons,
      List.not_mem_nil, or_false] at hp
    rcases hp with rfl | rfl | rfl | rfl <;> exact fun r hr => hr
  refine .block_cons (.act holds_inRx hon fun r hr => ⟨hr, rfl⟩) ?_
  refine .block_cons (.act hon hon fun r hr => ⟨rfl, hr.2⟩) ?_
  refine .block_cons (.act hon holds_receiving fun r hr => ⟨hr.1, hr.2, ?_⟩) ?_
  · exact show (0x01 : UInt8) &&& 0x01 ≠ 0 by decide
  · exact .block_last holds_receiving (.act holds_receiving holds_receiving fun r hr => hr)

theorem Initialized.receiving {r : Ax5043} (h : Initialized r) : InRx r ∧ Receiving r := by
  obtain ⟨r₀, -, hr⟩ := h
  have hinit : Triple Interrupt (fun _ => True) (fun _ => True) rf_4068_Init.unchecked
      fun r => InRx r ∧ Receiving r := by
    rw [rf_4068_Init, unchecked_block]
    refine .block_drop 8 (fun p _ => triple_true p) ?_
    refine .block_cons rf_startup_inRx (.block_cons (R := InRx) ?_ (.block_last holds_receiving ?_))
    · exact .of_keeps holds_inRx SetRegisters_RX_keeps.unchecked
    · exact Ax5043ReceiverON_receiving
  exact (hinit r₀ trivial _ _ hr).2 rfl

end init

/-- **The receiver that the state claims is running, is running, until the chip is restarted**:
in every run without a restart behind `rf_4068_Init`, and of the next handler exactly when it does
not restart the chip, provided the register table is whole. -/
theorem receiver_runs {r₀ r : Ax5043} (h₀ : Initialized r₀) (hr : Run r₀ r) :
    Agrees r ∧ ∀ e r', QuietTable r.RegValue → Handles e r r' → (Agrees r' ↔ ¬ Restarts r e) := by
  have hagrees : Agrees r := by
    induction hr with
    | refl => exact fun _ => h₀.receiving.2
    | tail _ hstep ih =>
        obtain ⟨e, he, n, h⟩ := hstep
        exact handler_agrees e _ _ ⟨ih, he⟩ h
  refine ⟨hagrees, fun e r' hq ⟨n, h⟩ => ⟨fun h' he => ?_, fun he => ?_⟩⟩
  · have hoff := handler_off e r r' ⟨⟨hq⟩, he⟩ h
    exact (h' hoff.1).not_off hoff.2
  · exact handler_agrees e r r' ⟨hagrees, he⟩ h

/-! ### A transmission -/

/-- A chip that is always ready: there is room in the FIFO, ranging ends at range `8`, and the
radio is idle. -/
def ready_chip (a : ℕ) (_ : ℕ → ℕ) : UInt8 :=
  if a = REG_AX5043_FIFOFREE1 then 1
  else if a = REG_AX5043_IRQREQUEST1 then 0x10
  else if a = REG_AX5043_XTALSTATUS then 1
  else if a = REG_AX5043_PLLRANGINGA then 8
  else 0

/-- `rf_4068_Init` with an interrupt wherever it waits for one. -/
def initial (shows : ℕ → (ℕ → ℕ) → UInt8) : Option Ax5043 :=
  rf_4068_Init.unchecked.exec_waiting (rf_4068_task_callback.unchecked.exec 200) 200 (start shows)

theorem initialized_of_initial {shows : ℕ → (ℕ → ℕ) → UInt8} {r : Ax5043}
    (h : initial shows = some r) : Initialized r :=
  ⟨start shows, rfl, exec_waiting_reach (fun h => ⟨200, h⟩) h⟩

/-- Events one after the other. -/
def after (r : Option Ax5043) (es : List RadioEvent) : Option Ax5043 :=
  es.foldl (fun r e => r.bind (e.handler.unchecked.exec 200)) r

theorem after_events (es : List RadioEvent) {o : Option Ax5043} {r' : Ax5043}
    (h : after o es = some r') :
    ∃ r, o = some r ∧ Relation.ReflTransGen (fun r r' => ∃ e, Handles e r r') r r' := by
  induction es generalizing o with
  | nil => exact ⟨r', h, .refl⟩
  | cons e es ih =>
      obtain ⟨r₁, h₁, hr⟩ := ih h
      obtain ⟨r, ho, he⟩ := Option.bind_eq_some_iff.mp h₁
      exact ⟨r, ho, .head ⟨e, 200, he⟩ hr⟩

/-- A ready chip that has received these bytes. -/
def receiving_chip (bytes : List UInt8) (a : ℕ) (reads : ℕ → ℕ) : UInt8 :=
  if a = REG_AX5043_FIFODATA then bytes.getD (reads REG_AX5043_FIFODATA) 0
  else if a = REG_AX5043_IRQREQUEST0 ∧ reads REG_AX5043_FIFODATA < bytes.length then 1
  else ready_chip a reads

/-- Three bytes are received with `-104` and handed on, which leaves the table whole and does not restart
the chip. -/
theorem receiver_runs_reception : ∃ r₀ r, Initialized r₀ ∧ Run r₀ r ∧
    r.delivered.map (fun d => (d.1, d.2.1.toList.take 3, d.2.2)) = [(-104, [1, 2, 3], 3)] ∧ Agrees r ∧
      ∀ e r', Handles e r r' → (Agrees r' ↔ ¬ Restarts r e) := by
  have h : (initial (receiving_chip [0x31, 0xD8, 0x81, 3, 1, 2, 3])).any (fun r₀ =>
      r₀.ubRFState = trxstate_rx ∧ (RadioEvent.interrupt.handler.unchecked.exec 200 r₀).any fun r =>
        QuietTable r.RegValue ∧
          r.delivered.map (fun d => (d.1, d.2.1.toList.take 3, d.2.2)) = [(-104, [1, 2, 3], 3)]) =
      true := by
    decide +kernel
  obtain ⟨r₀, h₀, h⟩ := (Option.any_eq_true _ _).mp h
  obtain ⟨hrx, h⟩ := of_decide_eq_true h
  obtain ⟨r, hr, h⟩ := (Option.any_eq_true _ _).mp h
  obtain ⟨hq, hdelivered⟩ := of_decide_eq_true h
  have hstep : ¬ Restarts r₀ .interrupt := fun hn => absurd (hrx.symm.trans hn.1) (by decide)
  have hrun : Run r₀ r := .single ⟨.interrupt, hstep, 200, hr⟩
  have hruns := receiver_runs (initialized_of_initial h₀) hrun
  exact ⟨r₀, r, initialized_of_initial h₀, hrun, hdelivered, hruns.1,
    fun e r' he => hruns.2 e r' hq he⟩

/-- **The end of a transmission leaves the receiver off.** -/
theorem not_receiver_runs_transmission : ¬ ∀ r₀ r, Initialized r₀ →
    Relation.ReflTransGen (fun r r' => ∃ e, Handles e r r') r₀ r → Agrees r := by
  have h : (after (initial ready_chip) [.send (fun _ => 0x31) 14, .interrupt, .interrupt]).any
      (fun r => r.ubRFState = trxstate_rx ∧
        r.reg REG_AX5043_PWRMODE = AX5043_PWRSTATE_POWERDOWN) = true := by
    decide +kernel
  obtain ⟨r, hr, h⟩ := (Option.any_eq_true _ _).mp h
  obtain ⟨hrx, hoff⟩ := of_decide_eq_true h
  obtain ⟨r₀, h₀, hrun⟩ := after_events _ hr
  intro hall
  have hon := (hall r₀ r (initialized_of_initial h₀) hrun hrx).1
  exact absurd (hon.symm.trans hoff) (by decide)

end MeterTester
