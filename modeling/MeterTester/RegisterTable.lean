import Mathlib.Data.List.GetD
import MeterTester.Driver
import MeterTester.Returns
import MeterTester.TableWrites

/-! # The register table of the radio: `InitAx5043REG`

`struct ax5043` has room for the `126` rows that `rf_4068_Init` copies from `set_registers_4068`,
and the loop of `InitAx5043REG` ends before row `125`.  After it the chip holds the table exactly
when it held the last row before (`table_reached_iff`); the loops over the two tables of six rows
leave nothing out (`write_rows_held`, `SetRegisters_TX_held`, `SetRegisters_RX_held`).

The bus carries twelve bits of an address, so a row names the register at its address modulo
`0x1000`. -/

namespace MeterTester

open Interleave Interleave.Prog Ax5043 TableWrites

/-- The registers and the bytes of a table. -/
def register_rows {m : ℕ} (t : Registers m) : List (ℕ × UInt8) :=
  t.toList.map fun x => (x.1.toNat % 0x1000, x.2.toUInt8)

theorem register_rows_length {m : ℕ} (t : Registers m) : (register_rows t).length = m := by
  simp [register_rows]

theorem getElem_register_rows {m : ℕ} (t : Registers m) {k : ℕ} (hk : k < (register_rows t).length) :
    (register_rows t)[k] = ((row t k).1.toNat % 0x1000, (row t k).2.toUInt8) := by
  have hlt : k < t.toList.length := by simpa [register_rows] using hk
  rw [row, List.getD_eq_getElem _ _ hlt]
  exact List.getElem_map _

theorem write_reg (r : Ax5043) (a : ℕ) (v : UInt8) :
    (r.write a v).reg = Function.update r.reg a v := by
  funext b
  rw [Function.update_apply]
  rfl

/-! ### The loops over the tables -/

/-- `i` is the counter of a loop over the table `Value`, and a transfer touches neither. -/
structure Counts {m : ℕ} (Value : Ax5043 → Registers m) (i : Ax5043 → ℕ)
    (set_i : ℕ → Ax5043 → Ax5043) : Prop where
  i_set : ∀ k r, i (set_i k r) = k
  i_write : ∀ r a v, i (r.write a v) = i r
  Value_set : ∀ k r, Value (set_i k r) = Value r
  Value_write : ∀ r a v, Value (r.write a v) = Value r
  reg_set : ∀ k r, (set_i k r).reg = r.reg

theorem counts_init : Counts (·.RegValue) (·.init_i) fun i r => { r with init_i := i } :=
  ⟨fun _ _ => rfl, fun _ _ _ => rfl, fun _ _ => rfl, fun _ _ _ => rfl, fun _ _ => rfl⟩

theorem counts_tx : Counts (·.TXRegValue) (·.tx_i) fun i r => { r with tx_i := i } :=
  ⟨fun _ _ => rfl, fun _ _ _ => rfl, fun _ _ => rfl, fun _ _ _ => rfl, fun _ _ => rfl⟩

theorem counts_rx : Counts (·.RXRegValue) (·.rx_i) fun i r => { r with rx_i := i } :=
  ⟨fun _ _ => rfl, fun _ _ _ => rfl, fun _ _ => rfl, fun _ _ _ => rfl, fun _ _ => rfl⟩

section loops
variable {m n : ℕ} {Value : Ax5043 → Registers m} {i : Ax5043 → ℕ} {set_i : ℕ → Ax5043 → Ax5043}

/-- What is left of the loop before row `i`: the induction is on the number of rows to go. -/
theorem rows_loop_returns (h : Counts Value i set_i) (hn : n ≤ m) (k : ℕ) (r : Ax5043)
    (hk : i r + k = n) :
    (loop (fun r => i r < n) (block
      [SpiWriteLongAddressRegister (fun r => (row (Value r) (i r)).1.toNat)
        fun r => (row (Value r) (i r)).2.toUInt8,
        act fun r => set_i (i r + 1) r])).Returns r fun r' =>
      Value r' = Value r ∧
        r'.reg = overwritten (((register_rows (Value r)).drop (i r)).take k) r.reg := by
  induction k generalizing r with
  | zero =>
      have hend : ¬ i r < n := by omega
      rw [returns_loop, if_neg (by simpa using hend)]
      exact ⟨rfl, rfl⟩
  | succ k ih =>
      have hlt : i r < n := by omega
      rw [returns_loop, if_pos (by simpa using hlt), returns_block_cons, SpiWriteLongAddressRegister,
        returns_act, returns_block_cons, returns_act, returns_block_nil]
      have hrow : i r < (register_rows (Value r)).length := by
        rw [register_rows_length]
        omega
      apply (ih (set_i _ (r.write _ _)) (by rw [h.i_set, h.i_write]; omega)).mono
      intro r' hr'
      obtain ⟨hV, hreg⟩ := hr'
      rw [h.Value_set, h.Value_write] at hV hreg
      rw [h.i_set, h.i_write, h.reg_set, write_reg] at hreg
      refine ⟨hV, ?_⟩
      rw [hreg, List.drop_eq_getElem_cons hrow, List.take_succ_cons, overwritten_cons,
        getElem_register_rows]

/-- The loop writes the first `n` rows. -/
theorem write_rows_returns (h : Counts Value i set_i) (hn : n ≤ m) (r : Ax5043) :
    (write_rows n Value i set_i).Returns r fun r' =>
      Value r' = Value r ∧ r'.reg = overwritten ((register_rows (Value r)).take n) r.reg := by
  rw [write_rows, returns_block_cons, returns_act, returns_block_cons]
  refine (rows_loop_returns h hn n (set_i 0 r) (by rw [h.i_set, Nat.zero_add])).mono
    fun r' hr' => ?_
  rw [returns_block_nil]
  rwa [h.Value_set, h.i_set, h.reg_set, List.drop_zero] at hr'

/-- A table whose rows are all written is held. -/
theorem write_rows_held (h : Counts Value i set_i) {r : Ax5043}
    (hr : ((register_rows (Value r)).map Prod.fst).Nodup) :
    (write_rows m Value i set_i).Returns r fun r' => Stores (register_rows (Value r)) r'.reg := by
  apply (write_rows_returns h le_rfl r).mono
  intro r' hr'
  rw [hr'.2, List.take_of_length_le (register_rows_length (Value r)).le]
  exact stores_overwritten hr r.reg

end loops

/-! ### The tables of six rows -/

section common
variable {l : List (ℕ × UInt8)}

theorem held_write {r : Ax5043} (h : Stores l r.reg) {a : ℕ} (ha : a ∉ l.map Prod.fst) (v : UInt8) :
    Stores l (r.write a v).reg := by
  rw [write_reg]
  exact (stores_update_iff ha r.reg v).mpr h

theorem held_seen {r : Ax5043} (h : Stores l r.reg) (a : ℕ) : Stores l (r.seen a).reg := by
  unfold seen
  split_ifs
  · exact h
  · exact h

/-- The registers of the PLL are behind a table that does not name them. -/
theorem init_registers_common_held (ha : REG_AX5043_PLLRANGINGA ∉ l.map Prod.fst)
    (hb : REG_AX5043_PLLRANGINGB ∉ l.map Prod.fst) (hv : REG_AX5043_PLLVCOI ∉ l.map Prod.fst)
    {r : Ax5043} (h : Stores l r.reg) :
    ax5043_init_registers_common.Returns r fun r' => Stores l r'.reg := by
  rw [ax5043_init_registers_common, returns_cond]
  split_ifs with hrng
  · rw [returns_block_cons, SpiReadSingleAddressRegister, returns_act, returns_block_cons,
      SpiReadLongAddressRegister, returns_act, returns_block_nil]
    have hseen := held_seen h (REG_AX5043_PLLLOOP % 0x80)
    split_ifs
    · exact held_write (held_seen (held_write hseen hb _) _) hv _
    · exact held_seen (held_write hseen hb _) _
    · exact held_write (held_seen (held_write hseen ha _) _) hv _
    · exact held_seen (held_write hseen ha _) _
  · exact h

end common

/-- The rows name different registers, and none of those that the PLL is ranged with. -/
structure WritableSix (t : Registers 6) : Prop where
  distinct : ((register_rows t).map Prod.fst).Nodup
  ranging_a : REG_AX5043_PLLRANGINGA ∉ (register_rows t).map Prod.fst
  ranging_b : REG_AX5043_PLLRANGINGB ∉ (register_rows t).map Prod.fst
  vcoi : REG_AX5043_PLLVCOI ∉ (register_rows t).map Prod.fst

theorem SetRegisters_TX_held {r : Ax5043} (h : WritableSix r.TXRegValue) :
    Ax5043SetRegisters_TX.Returns r fun r' => Stores (register_rows r.TXRegValue) r'.reg := by
  rw [Ax5043SetRegisters_TX, returns_block_cons]
  apply (write_rows_held counts_tx h.distinct).mono
  intro r' hr'
  rw [returns_block_cons]
  exact (init_registers_common_held h.ranging_a h.ranging_b h.vcoi hr').mono
    fun r'' hr'' => returns_block_nil.mpr hr''

theorem SetRegisters_RX_held {r : Ax5043} (h : WritableSix r.RXRegValue) :
    Ax5043SetRegisters_RX.Returns r fun r' => Stores (register_rows r.RXRegValue) r'.reg := by
  rw [Ax5043SetRegisters_RX, returns_block_cons]
  apply (write_rows_held counts_rx h.distinct).mono
  intro r' hr'
  rw [returns_block_cons]
  exact (init_registers_common_held h.ranging_a h.ranging_b h.vcoi hr').mono
    fun r'' hr'' => returns_block_nil.mpr hr''

/-- The tables of `Config_4068.h` are such tables. -/
theorem set_registers_tx_rx_writable :
    WritableSix set_registers_tx_4068 ∧ WritableSix set_registers_rx_4068 := by
  refine ⟨⟨?_, ?_, ?_, ?_⟩, ⟨?_, ?_, ?_, ?_⟩⟩ <;> decide +kernel

/-! ### `InitAx5043REG` -/

/-- The rows name different registers, and neither of the two that `InitAx5043REG` sets itself. -/
structure Writable (t : Registers 126) : Prop where
  distinct : ((register_rows t).map Prod.fst).Nodup
  irq : REG_AX5043_PINFUNCIRQ ∉ (register_rows t).map Prod.fst
  flags : REG_AX5043_PKTSTOREFLAGS ∉ (register_rows t).map Prod.fst

/-- From `r` to `r'` the table has been written, and nothing but the two registers beside it. -/
structure Reached (r r' : Ax5043) : Prop where
  rows : Stores (register_rows r.RegValue) r'.reg
  others : ∀ a ∉ (register_rows r.RegValue).map Prod.fst, a ≠ REG_AX5043_PINFUNCIRQ →
    a ≠ REG_AX5043_PKTSTOREFLAGS → r'.reg a = r.reg a

/-- What becomes of the registers; `PKTLENOFFSET` is written with what it shows. -/
theorem InitAx5043REG_returns (r : Ax5043) : InitAx5043REG.Returns r fun r' =>
    r'.reg = Function.update
      (Function.update (overwritten ((register_rows r.RegValue).take 125) r.reg)
        REG_AX5043_PINFUNCIRQ 0x03) REG_AX5043_PKTSTOREFLAGS 0x15 := by
  rw [InitAx5043REG, returns_block_cons]
  apply (write_rows_returns counts_init (by decide) r).mono
  intro r' hr'
  rw [returns_block_cons, SpiReadLongAddressRegister, returns_act, returns_block_cons,
    SpiWriteSingleAddressRegister, returns_act, returns_block_cons, SpiWriteLongAddressRegister,
    returns_act, returns_block_nil, write_reg, write_reg, write_reg]
  have hoffset : REG_AX5043_PKTLENOFFSET % 0x1000 ∉ status := by decide
  rw [seen, if_neg hoffset, shown, if_neg hoffset]
  have hself : Function.update r'.reg REG_AX5043_PKTLENOFFSET
      (r'.reg (REG_AX5043_PKTLENOFFSET % 0x1000)) = r'.reg := Function.update_eq_self _ _
  rw [hself, hr'.2]
  rfl

/-- The rows that the loop leaves out. -/
theorem register_rows_last (t : Registers 126) : (register_rows t).drop 125 =
    [((row t 125).1.toNat % 0x1000, (row t 125).2.toUInt8)] := by
  have hlt : 125 < (register_rows t).length := by
    rw [register_rows_length]
    decide
  have hnil : (register_rows t).drop 126 = [] := by
    apply List.drop_eq_nil_of_le
    rw [register_rows_length]
  rw [List.drop_eq_getElem_cons hlt, getElem_register_rows, hnil]

/-- **The table reaches the chip** exactly when the register of its last row, which is never
written, has held that row's byte before. -/
theorem table_reached_iff {r : Ax5043} (h : Writable r.RegValue) :
    InitAx5043REG.Returns r fun r' =>
      Reached r r' ↔
        r.reg ((row r.RegValue 125).1.toNat % 0x1000) = (row r.RegValue 125).2.toUInt8 := by
  apply (InitAx5043REG_returns r).mono
  intro r' hr'
  have hrows : Stores (register_rows r.RegValue) r'.reg ↔
      r.reg ((row r.RegValue 125).1.toNat % 0x1000) = (row r.RegValue 125).2.toUInt8 := by
    rw [hr', stores_update_iff h.flags, stores_update_iff h.irq, stores_take_iff h.distinct,
      register_rows_last]
    exact List.forall_mem_singleton
  rw [← hrows]
  constructor
  · exact fun hreached => hreached.rows
  · intro hheld
    refine ⟨hheld, fun a ha hirq hflags => ?_⟩
    rw [hr', Function.update_of_ne hflags, Function.update_of_ne hirq]
    apply overwritten_of_notMem
    intro hmem
    rw [List.map_take] at hmem
    exact ha (List.mem_of_mem_take hmem)

/-! ### The table of the program -/

theorem set_registers_4068_writable : Writable set_registers_4068 where
  distinct := by decide +kernel
  irq := by decide +kernel
  flags := by decide +kernel

/-- The chip at power on, with the registers at `reg`, and the table of `Config_4068.h`. -/
def configured (reg : ℕ → UInt8) : Ax5043 :=
  { Ax5043.start (fun _ _ => 0) with
    RegValue := set_registers_4068
    reg := reg }

/-- The last register holds its byte already. -/
theorem table_reached_iff_held :
    InitAx5043REG.Returns (configured fun _ => 0x25) (Reached (configured fun _ => 0x25)) :=
  (table_reached_iff (r := configured _) set_registers_4068_writable).mono fun _ h => h.mpr rfl

/-- Register `0xF44` of the program's own table keeps its `0`. -/
theorem not_table_reached :
    ¬ ∀ r : Ax5043, Writable r.RegValue → InitAx5043REG.Returns r (Reached r) := by
  intro h
  obtain ⟨n, r', hexec, hreached⟩ := h (configured fun _ => 0) set_registers_4068_writable
  obtain ⟨m, r'', hexec', hreg⟩ := InitAx5043REG_returns (configured fun _ => 0)
  rw [← exec_unique hexec hexec'] at hreg
  have hrow := hreached.rows (0xF44, 0x25) (by decide +kernel)
  have hkept : r'.reg 0xF44 = 0 := by
    rw [hreg, Function.update_of_ne (by decide), Function.update_of_ne (by decide)]
    exact overwritten_of_notMem (by decide +kernel) _
  rw [hkept] at hrow
  exact absurd hrow (by decide)

end MeterTester
