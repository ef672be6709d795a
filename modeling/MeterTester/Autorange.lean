import MeterTester.Driver
import MeterTester.Returns
import MeterTester.Runs

/-! # The search of the oscillator current: `simple_autorange_pll`

The loop ranges the PLL with each current `VCOI` from `0xA2` to `0xBE`.  The ranges that come out are
compressed into two tables of ten rows, one row a run of equal ranges with its last current (`Table`,
by `runs`), and the last of the smallest ranges tells the current.

The range before the first one counts as `0`: if the first range that comes out is `0`, it is entered
into a row that is not there.  So the search stays in its tables, and then finds the largest current
with the smallest range, exactly if there are at most ten runs and the first range is not `0`
(`autorange_iff`). -/

namespace MeterTester

open Interleave Interleave.Prog Ax5043 Runs

/-! ### Waiting -/

/-- `k` more readings of register `a`. -/
def later (a k : ℕ) (reads : ℕ → ℕ) : ℕ → ℕ := fun b => if b = a then reads b + k else reads b

theorem later_zero (a : ℕ) (reads : ℕ → ℕ) : later a 0 reads = reads := by
  funext b
  simp only [later, Nat.add_zero, ite_self]

theorem later_later (a j k : ℕ) (reads : ℕ → ℕ) :
    later a j (later a k reads) = later a (k + j) reads := by
  funext b
  simp only [later]
  split_ifs <;> omega

/-- The chip comes to an end with everything the driver waits for. -/
structure Answers (shows : ℕ → (ℕ → ℕ) → UInt8) : Prop where
  irq : ∀ reads, ∃ k, shows REG_AX5043_IRQREQUEST1 (later REG_AX5043_IRQREQUEST1 k reads) &&& 0x10 ≠ 0
  xtal : ∀ reads, ∃ k, shows REG_AX5043_XTALSTATUS (later REG_AX5043_XTALSTATUS k reads) ≠ 0

/-- `k` rangings later; the tables are as they were. -/
structure OffTables (k : ℕ) (r r' : Ax5043) : Prop where
  shows : r'.shows = r.shows
  rangings : r'.reads REG_AX5043_PLLRANGINGA = r.reads REG_AX5043_PLLRANGINGA + k
  vcoi : r'.vcoi = r.vcoi
  minvcoi : r'.minvcoi = r.minvcoi
  num : r'.num = r.num
  range_num : r'.range_num = r.range_num
  range_oldnum : r'.range_oldnum = r.range_oldnum
  range_table : r'.range_table = r.range_table
  range_tableold : r'.range_tableold = r.range_tableold

theorem OffTables.trans {j k : ℕ} {r r' r'' : Ax5043} (h : OffTables j r r') (h' : OffTables k r' r'') :
    OffTables (j + k) r r'' :=
  ⟨h'.shows.trans h.shows, by rw [h'.rangings, h.rangings, Nat.add_assoc], h'.vcoi.trans h.vcoi,
    h'.minvcoi.trans h.minvcoi, h'.num.trans h.num, h'.range_num.trans h.range_num,
    h'.range_oldnum.trans h.range_oldnum, h'.range_table.trans h.range_table,
    h'.range_tableold.trans h.range_tableold⟩

theorem seen_reads {a : ℕ} (ha : a ∈ status) (r : Ax5043) : (r.seen a).reads = later a 1 r.reads := by
  rw [seen, if_pos ha]
  funext b
  simp only [later]
  split_ifs with h
  · rw [h]
  · rfl

/-- A register has been written. -/
theorem offTables_write (r : Ax5043) (a : ℕ) (v : UInt8) : OffTables 0 r (r.write a v) :=
  ⟨rfl, rfl, rfl, rfl, rfl, rfl, rfl, rfl, rfl⟩

/-- Another register has been read. -/
theorem offTables_seen {a : ℕ} (hne : a ≠ REG_AX5043_PLLRANGINGA) (r : Ax5043) : OffTables 0 r (r.seen a) := by
  rw [seen]
  split_ifs with ha
  · exact ⟨rfl, if_neg hne.symm, rfl, rfl, rfl, rfl, rfl, rfl, rfl⟩
  · exact ⟨rfl, rfl, rfl, rfl, rfl, rfl, rfl, rfl, rfl⟩

section poll
variable {a : ℕ} {k : Ax5043 → UInt8 → Ax5043} {c : Ax5043 → Bool} {P : UInt8 → Prop}

/-- A wait for a reading with `P` ends where one comes. -/
theorem poll_returns (ha : a ∈ status) (hsingle : a % 0x80 = a) (hne : a ≠ REG_AX5043_PLLRANGINGA)
    (hc : ∀ r v, c (k r v) = true ↔ ¬ P v)
    (hk : ∀ r v, OffTables 0 r (k r v) ∧ (k r v).reads = r.reads) : ∀ (n : ℕ) (r : Ax5043),
    P (r.shows a (later a n r.reads)) →
      (do_while (SpiReadSingleAddressRegister a k) c).Returns r (OffTables 0 r) := by
  intro n
  induction n with
  | zero =>
      intro r h
      have hP : P (r.shown a) := by
        rw [shown, if_pos ha]
        rwa [later_zero] at h
      rw [returns_do_while, SpiReadSingleAddressRegister, returns_act, hsingle, returns_loop,
        if_neg fun h => (hc _ _).mp h hP]
      exact (offTables_seen hne r).trans (hk _ _).1
  | succ n ih =>
      intro r h
      have hoff := (offTables_seen hne r).trans (hk (r.seen a) (r.shown a)).1
      rw [returns_do_while, SpiReadSingleAddressRegister, returns_act, hsingle, returns_loop]
      by_cases hP : P (r.shown a)
      · rw [if_neg fun h => (hc _ _).mp h hP]
        exact hoff
      · rw [if_pos ((hc _ _).mpr hP)]
        have hnext := ih (k (r.seen a) (r.shown a)) (by
          rw [(hk _ _).2, seen_reads ha, later_later, Nat.add_comm 1 n, hoff.shows]
          exact h)
        rw [returns_do_while, SpiReadSingleAddressRegister, hsingle] at hnext
        exact hnext.mono fun r' h' => h'.mono fun r'' h'' => hoff.trans h''

end poll

/-- The end of a ranging is awaited. -/
theorem await_irq {r : Ax5043} (h : Answers r.shows) :
    (do_while (SpiReadSingleAddressRegister REG_AX5043_IRQREQUEST1 fun r v =>
      { r with irqrequest1 := v }) fun r => r.irqrequest1 &&& 0x10 = 0).Returns r (OffTables 0 r) := by
  obtain ⟨n, hn⟩ := h.irq r.reads
  refine poll_returns (P := fun v => v &&& 0x10 ≠ 0) (by decide) rfl (by decide) (fun r v => ?_)
    (fun r v => ?_) n r hn
  · rw [decide_eq_true_iff, not_not]
  · exact ⟨⟨rfl, rfl, rfl, rfl, rfl, rfl, rfl, rfl, rfl⟩, rfl⟩

/-- The crystal is awaited. -/
theorem await_xtal {r : Ax5043} (h : Answers r.shows) :
    (do_while (SpiReadSingleAddressRegister REG_AX5043_XTALSTATUS fun r v => { r with data := v })
      fun r => r.data = 0).Returns r (OffTables 0 r) := by
  obtain ⟨n, hn⟩ := h.xtal r.reads
  refine poll_returns (P := fun v => v ≠ 0) (by decide) rfl (by decide) (fun r v => ?_)
    (fun r v => ?_) n r hn
  · rw [decide_eq_true_iff, not_not]
  · exact ⟨⟨rfl, rfl, rfl, rfl, rfl, rfl, rfl, rfl, rfl⟩, rfl⟩

/-- The PLL has been ranged once more, with the outcome `v`. -/
theorem range_pll_returns {r : Ax5043} {v : UInt8} (h : Answers r.shows)
    (hv : ∀ reads : ℕ → ℕ, reads REG_AX5043_PLLRANGINGA = r.reads REG_AX5043_PLLRANGINGA →
      r.shows REG_AX5043_PLLRANGINGA reads = v) :
    range_pll.Returns r fun r' => OffTables 1 r r' ∧ r'.pllrng = v := by
  rw [range_pll, returns_block_cons, SpiWriteSingleAddressRegister, returns_act, returns_block_cons]
  apply (await_irq (r := r.write (REG_AX5043_PLLRANGINGA % 0x80) 0x18) h).mono
  intro r' hoff
  rw [returns_block_cons, SpiWriteSingleAddressRegister, returns_act, returns_block_cons,
    SpiReadSingleAddressRegister, returns_act, returns_block_nil]
  have hread : ∀ r : Ax5043, r.seen (REG_AX5043_PLLRANGINGA % 0x80) =
      { r with reads := later REG_AX5043_PLLRANGINGA 1 r.reads } := fun r => by
    rw [← seen_reads (by decide), seen]
    rfl
  rw [hread]
  constructor
  · refine ⟨hoff.shows, ?_, hoff.vcoi, hoff.minvcoi, hoff.num, hoff.range_num, hoff.range_oldnum,
      hoff.range_table, hoff.range_tableold⟩
    show later REG_AX5043_PLLRANGINGA 1 r'.reads REG_AX5043_PLLRANGINGA = _
    rw [later, if_pos rfl, hoff.rangings]
    rfl
  · show (r'.write (REG_AX5043_IRQMASK1 % 0x80) 0x00).shown (REG_AX5043_PLLRANGINGA % 0x80) = v
    rw [shown, if_pos (by decide)]
    exact (congrFun (congrFun hoff.shows _) _).trans (hv _ hoff.rangings)

/-! ### The tables -/

instance preorder_uint8 : Preorder UInt8 where
  le_refl := UInt8.le_refl
  le_trans _ _ _ := UInt8.le_trans
  lt_iff_le_not_ge a b := by
    rw [UInt8.lt_iff_toNat_lt, UInt8.le_iff_toNat_le, UInt8.le_iff_toNat_le]
    omega

/-- The entries fit into the tables, and the first one opens a row. -/
def Enters (l : List (UInt8 × UInt8)) : Prop :=
  (runs l).length ≤ 10 ∧ ∀ p, l.head? = some p → p.2 ≠ 0

/-- The tables hold the runs of the entries. -/
structure Table (l : List (UInt8 × UInt8)) (r : Ax5043) : Prop where
  enters : Enters l
  range_num : r.range_num.toNat = (runs l).length
  range_oldnum : r.range_oldnum = (l.getLast?.map Prod.snd).getD 0
  range_table : ∀ i (hi : i < (runs l).length), r.range_table[i]? = some (runs l)[i].1
  range_tableold : ∀ i (hi : i < (runs l).length), r.range_tableold[i]? = some (runs l)[i].2

theorem Table.offTables {l : List (UInt8 × UInt8)} {k : ℕ} {r r' : Ax5043} (h : Table l r)
    (hq : OffTables k r r') : Table l r' := by
  refine ⟨h.enters, ?_, ?_, ?_, ?_⟩
  · rw [hq.range_num]
    exact h.range_num
  · rw [hq.range_oldnum]
    exact h.range_oldnum
  · rw [hq.range_table]
    exact h.range_table
  · rw [hq.range_tableold]
    exact h.range_tableold

/-- A prefix of entries that fit, fits. -/
theorem Enters.of_concat {l : List (UInt8 × UInt8)} {p : UInt8 × UInt8} (h : Enters (l ++ [p])) :
    Enters l := by
  refine ⟨?_, fun q hq => h.2 q ?_⟩
  · have hlen := h.1
    rw [length_runs_concat] at hlen
    split_ifs at hlen <;> omega
  · rw [List.head?_append, hq]
    rfl

section enter
variable {l : List (UInt8 × UInt8)} {r : Ax5043}

/-- A new range opens a row. -/
def opened (r : Ax5043) : Ax5043 :=
  { r with
    range_oldnum := r.pllrng
    range_table := r.range_table.setIfInBounds r.range_num.toNat r.vcoi
    range_tableold := r.range_tableold.setIfInBounds r.range_num.toNat r.pllrng
    range_num := r.range_num + 1 }

/-- A range that stays replaces the current in the last row. -/
def replaced (r : Ax5043) : Ax5043 :=
  { r with range_table := r.range_table.setIfInBounds (r.range_num - 1).toNat r.vcoi }

/-- A row behind the others. -/
theorem row_concat {rs : List (UInt8 × UInt8)} {f : UInt8 × UInt8 → UInt8} {t : Vector UInt8 10}
    {p : UInt8 × UInt8} (hrows : ∀ i (hi : i < rs.length), t[i]? = some (f rs[i]))
    (hl : rs.length < 10) : ∀ i (hi : i < (rs ++ [p]).length),
      (t.setIfInBounds rs.length (f p))[i]? = some (f (rs ++ [p])[i]) := by
  intro i hi
  rw [List.length_append, List.length_singleton] at hi
  rw [Vector.getElem?_setIfInBounds]
  by_cases hi' : rs.length = i
  · subst hi'
    rw [if_pos rfl, if_pos hl, List.getElem_concat_length rfl]
  · rw [if_neg hi', List.getElem_append_left (by omega)]
    exact hrows i (by omega)

theorem Table.opened (h : Table l r) (hl : (runs l).length < 10)
    (hne : l.getLast?.map Prod.snd ≠ some r.pllrng) (hhead : l = [] → r.pllrng ≠ 0) :
    Table (l ++ [(r.vcoi, r.pllrng)]) (opened r) := by
  have hruns : runs (l ++ [(r.vcoi, r.pllrng)]) = runs l ++ [(r.vcoi, r.pllrng)] := by
    rw [runs_concat, if_neg hne]
  have hlen : (runs (l ++ [(r.vcoi, r.pllrng)])).length = (runs l).length + 1 := by
    rw [hruns, List.length_append, List.length_singleton]
  have hnum := h.range_num
  refine ⟨⟨by omega, fun p hp => ?_⟩, ?_, ?_, fun i hi => ?_, fun i hi => ?_⟩
  · rcases l with _ | ⟨q, l⟩
    · cases hp
      exact hhead rfl
    · exact h.enters.2 p hp
  · show (r.range_num + 1).toNat = _
    rw [hlen, UInt8.toNat_add, hnum]
    exact Nat.mod_eq_of_lt (Nat.lt_of_le_of_lt (Nat.succ_le_of_lt hl) (by decide))
  · rw [List.getLast?_concat]
    rfl
  · show (r.range_table.setIfInBounds _ _)[i]? = _
    rw [hnum]
    simp only [hruns]
    exact row_concat (f := Prod.fst) h.range_table hl i (hruns ▸ hi)
  · show (r.range_tableold.setIfInBounds _ _)[i]? = _
    rw [hnum]
    simp only [hruns]
    exact row_concat (f := Prod.snd) h.range_tableold hl i (hruns ▸ hi)

theorem Table.replaced (h : Table l r) (heq : l.getLast?.map Prod.snd = some r.pllrng) :
    Table (l ++ [(r.vcoi, r.pllrng)]) (replaced r) := by
  have hne : runs l ≠ [] := runs_ne_nil fun hnil => by
    rw [hnil] at heq
    cases heq
  have hpos := List.length_pos_iff.mpr hne
  have hnum := h.range_num
  have hpred : (r.range_num - 1).toNat = (runs l).length - 1 := by
    rw [UInt8.toNat_sub_of_le _ _ (by rw [UInt8.le_iff_toNat_le, hnum]; exact hpos), hnum]
    rfl
  have hruns : runs (l ++ [(r.vcoi, r.pllrng)]) = (runs l).dropLast ++ [(r.vcoi, r.pllrng)] := by
    rw [runs_concat, if_pos heq]
  have hdrop : (runs l).dropLast.length = (runs l).length - 1 := List.length_dropLast
  have hlen : (runs (l ++ [(r.vcoi, r.pllrng)])).length = (runs l).length := by
    rw [hruns, List.length_append, List.length_singleton]
    omega
  refine ⟨⟨hlen.trans_le h.enters.1, fun p hp => ?_⟩, hnum.trans hlen.symm, ?_, fun i hi => ?_,
    fun i hi => ?_⟩
  · rcases l with _ | ⟨q, l⟩
    · cases heq
    · exact h.enters.2 p hp
  · rw [List.getLast?_concat]
    show r.range_oldnum = r.pllrng
    rw [h.range_oldnum, heq, Option.getD_some]
  · show (r.range_table.setIfInBounds _ _)[i]? = _
    rw [hpred, Vector.getElem?_setIfInBounds]
    simp only [hruns]
    by_cases hi' : (runs l).length - 1 = i
    · have := h.enters.1
      rw [if_pos hi', if_pos (by omega), List.getElem_concat_length (by omega)]
    · rw [if_neg hi', List.getElem_append_left (by omega), List.getElem_dropLast]
      exact h.range_table i (by omega)
  · have hold := h.range_tableold i (by omega)
    show r.range_tableold[i]? = _
    rw [hold]
    simp only [hruns]
    by_cases hi' : (runs l).length - 1 = i
    · have hlast := getLast?_runs l
      rw [List.getLast?_eq_getElem?, List.getElem?_eq_getElem (by omega)] at hlast
      rw [← hlast, Option.map_some] at heq
      rw [List.getElem_concat_length (by omega)]
      subst hi'
      exact heq
    · rw [List.getElem_append_left (by omega), List.getElem_dropLast]

/-- The current in the last row is below the next one. -/
theorem Table.last_below (h : Table l r) (hbelow : ∀ p ∈ l, p.1 < r.vcoi) (hne : l ≠ []) :
    r.range_table.toList.getD (r.range_num - 1).toNat 0 < r.vcoi := by
  have hpos := List.length_pos_iff.mpr (runs_ne_nil hne)
  have hpred : (r.range_num - 1).toNat = (runs l).length - 1 := by
    rw [UInt8.toNat_sub_of_le _ _ (by rw [UInt8.le_iff_toNat_le, h.range_num]; exact hpos),
      h.range_num]
    rfl
  have hlast := h.range_table ((runs l).length - 1) (by omega)
  rw [hpred, List.getD_eq_getElem?_getD, Vector.getElem?_toList, hlast, Option.getD_some]
  exact hbelow _ ((runs_sublist l).subset (List.getElem_mem _))

/-- The code enters an outcome if there is room for it, and stops otherwise. -/
theorem enter_range_iff (h : Table l r) (hbelow : ∀ p ∈ l, p.1 < r.vcoi) {Q : Ax5043 → Prop}
    {A : Prop} (hQ : ∀ r', Table (l ++ [(r.vcoi, r.pllrng &&& 0x0f)]) r' → r'.shows = r.shows →
      r'.reads = r.reads → r'.vcoi = r.vcoi → r'.num = r.num → (Q r' ↔ A)) :
    enter_range.Returns r Q ↔ Enters (l ++ [(r.vcoi, r.pllrng &&& 0x0f)]) ∧ A := by
  have h₁ : Table l { r with pllrng := r.pllrng &&& 0x0f } :=
    ⟨h.enters, h.range_num, h.range_oldnum, h.range_table, h.range_tableold⟩
  have hlast : l ≠ [] → (l.getLast?.map Prod.snd = some (r.pllrng &&& 0x0f) ↔
      r.pllrng &&& 0x0f = r.range_oldnum) := fun hne => by
    rw [h.range_oldnum, List.getLast?_eq_some_getLast hne]
    simp [eq_comm]
  rw [enter_range, returns_block_cons, returns_act, returns_block_cons, returns_ite]
  simp only [returns_block_nil]
  by_cases hold : r.pllrng &&& 0x0f = r.range_oldnum
  · rw [if_neg (by simpa using hold), returns_block_cons, returns_check, decide_eq_true_iff]
    by_cases hne : l = []
    · -- the row before the first one
      subst hne
      have h0 : r.range_num.toNat = 0 := h.range_num
      refine iff_of_false (fun hcheck => ?_) fun hfit => ?_
      · have hlt := hcheck.1.1
        rw [UInt8.lt_iff_toNat_lt] at hlt
        exact absurd hlt (by rw [h0]; decide)
      · exact hfit.1.2 _ rfl (hold.trans h.range_oldnum)
    · have hnext := h₁.replaced ((hlast hne).mpr hold)
      have hnum : (0 : UInt8) < r.range_num ∧ r.range_num ≤ 10 := by
        rw [UInt8.lt_iff_toNat_lt, UInt8.le_iff_toNat_le, h.range_num]
        exact ⟨List.length_pos_iff.mpr (runs_ne_nil hne), h.enters.1⟩
      have hlt := h₁.last_below hbelow hne
      rw [and_iff_right hnum, returns_block_cons, returns_cond, if_pos (decide_eq_true hlt),
        returns_act, returns_block_nil, and_iff_right hnext.enters]
      exact hQ _ hnext rfl rfl rfl rfl
  · have hnew : l.getLast?.map Prod.snd ≠ some (r.pllrng &&& 0x0f) := by
      by_cases hne : l = []
      · rw [hne]
        simp
      · exact fun heq => hold ((hlast hne).mp heq)
    rw [if_pos (by simpa using hold), returns_block_cons, returns_act, returns_block_cons,
      returns_check, decide_eq_true_iff]
    by_cases hroom : (runs l).length < 10
    · have hnext := h₁.opened hroom hnew fun hnil hzero => hold (by rw [h.range_oldnum, hnil]; exact hzero)
      have hnum : r.range_num < 10 := by
        rw [UInt8.lt_iff_toNat_lt, h.range_num]
        exact hroom
      rw [and_iff_right hnum, and_iff_right hnext.enters, ← hQ (MeterTester.opened _) hnext rfl rfl rfl rfl]
      exact returns_of_exec 0 rfl
    · refine iff_of_false (fun hcheck => ?_) fun hfit => ?_
      · have hlt := hcheck.1
        rw [UInt8.lt_iff_toNat_lt] at hlt
        exact hroom (h.range_num ▸ hlt)
      · have hlen := hfit.1.1
        rw [length_runs_concat, if_neg hnew] at hlen
        omega

end enter

/-! ### The ranging loop -/

/-- The outcome `v` of a ranging with the current number `j`, unless it has failed. -/
def outcome (j : ℕ) (v : UInt8) : List (UInt8 × UInt8) :=
  if v &&& 0x20 = 0 then [(UInt8.ofNat (0xA2 + j), v &&& 0x0f)] else []

/-- The currents that the first `n` rangings succeed with, and their ranges. -/
def outcomes (results : ℕ → UInt8) (n : ℕ) : List (UInt8 × UInt8) :=
  (List.range n).flatMap fun j => outcome j (results j)

theorem outcomes_succ (results : ℕ → UInt8) (n : ℕ) :
    outcomes results (n + 1) = outcomes results n ++ outcome n (results n) := by
  rw [outcomes, List.range_succ, List.flatMap_append, List.flatMap_singleton]
  rfl

theorem mem_outcomes {results : ℕ → UInt8} {n : ℕ} {p : UInt8 × UInt8} (h : p ∈ outcomes results n) :
    ∃ j < n, p = (UInt8.ofNat (0xA2 + j), results j &&& 0x0f) := by
  obtain ⟨j, hj, hp⟩ := List.mem_flatMap.mp h
  rw [outcome] at hp
  split_ifs at hp
  · exact ⟨j, List.mem_range.mp hj, List.mem_singleton.mp hp⟩
  · cases hp

theorem vcoi_lt {i j : ℕ} (hij : i < j) (hj : j ≤ 29) : UInt8.ofNat (0xA2 + i) < UInt8.ofNat (0xA2 + j) := by
  rw [UInt8.lt_iff_toNat_lt, UInt8.toNat_ofNat', UInt8.toNat_ofNat']
  omega

theorem outcomes_pairwise (results : ℕ → UInt8) (n : ℕ) (hn : n ≤ 29) :
    (outcomes results n).Pairwise fun p q => p.1 ≤ q.1 := by
  induction n with
  | zero => exact List.Pairwise.nil
  | succ n ih =>
      rw [outcomes_succ, List.pairwise_append]
      refine ⟨ih (by omega), ?_, fun p hp q hq => ?_⟩
      · rw [outcome]
        split_ifs
        · exact List.pairwise_singleton _ _
        · exact List.Pairwise.nil
      · obtain ⟨i, hi, rfl⟩ := mem_outcomes hp
        rw [outcome] at hq
        split_ifs at hq
        · rw [List.mem_singleton.mp hq]
          exact le_of_lt (vcoi_lt hi (by omega))
        · cases hq

/-- The chip answers, and ranging number `j` gives `results j`. -/
structure Rangings (results : ℕ → UInt8) (r : Ax5043) : Prop where
  answers : Answers r.shows
  results : ∀ (reads : ℕ → ℕ) (j : ℕ),
    reads REG_AX5043_PLLRANGINGA = r.reads REG_AX5043_PLLRANGINGA + j →
      r.shows REG_AX5043_PLLRANGINGA reads = results j

/-- Before ranging number `j`. -/
structure Ranging (results : ℕ → UInt8) (j : ℕ) (r : Ax5043) : Prop where
  rangings : Rangings (fun i => results (j + i)) r
  vcoi : r.vcoi = UInt8.ofNat (0xA2 + j)
  num : r.num = 0
  table : Table (outcomes results j) r

theorem Ranging.below {results : ℕ → UInt8} {j : ℕ} {r : Ax5043} (h : Ranging results j r)
    (hj : j ≤ 29) : ∀ p ∈ outcomes results j, p.1 < r.vcoi := by
  intro p hp
  obtain ⟨i, hi, rfl⟩ := mem_outcomes hp
  rw [h.vcoi]
  exact vcoi_lt hi hj

/-- The body of the loop. -/
def range_turn : Prog Ax5043 := block
  [SpiWriteSingleAddressRegister REG_AX5043_IRQMASK1 fun _ => 0x00,
    SpiWriteLongAddressRegister (fun _ => REG_AX5043_PLLVCOI) fun r => r.vcoi,
    SpiWriteSingleAddressRegister REG_AX5043_IRQMASK1 fun _ => 0x10,
    SpiReadSingleAddressRegister REG_AX5043_IRQREQUEST1 fun r _ => r,
    range_pll,
    cond (fun r => r.pllrng &&& 0x20 = 0) enter_range,
    act fun r => { r with vcoi := r.vcoi + 1 }]

/-- Before the next ranging. -/
theorem Ranging.next {results : ℕ → UInt8} {j : ℕ} {r r' : Ax5043} (h : Ranging results j r)
    (hshows : r'.shows = r.shows)
    (hreads : r'.reads REG_AX5043_PLLRANGINGA = r.reads REG_AX5043_PLLRANGINGA + 1)
    (hvcoi : r'.vcoi = r.vcoi) (hnum : r'.num = r.num) (ht : Table (outcomes results (j + 1)) r') :
    Ranging results (j + 1) { r' with vcoi := r'.vcoi + 1 } := by
  refine ⟨⟨?_, fun reads i hi => ?_⟩, ?_, hnum.trans h.num,
    ⟨ht.enters, ht.range_num, ht.range_oldnum, ht.range_table, ht.range_tableold⟩⟩
  · show Answers r'.shows
    rw [hshows]
    exact h.rangings.answers
  · show r'.shows _ reads = _
    have hi : reads REG_AX5043_PLLRANGINGA = r'.reads REG_AX5043_PLLRANGINGA + i := hi
    rw [hshows, h.rangings.results reads (1 + i) (by omega), Nat.add_assoc]
  · show r'.vcoi + 1 = _
    rw [hvcoi, h.vcoi, ← Nat.add_assoc, UInt8.ofNat_add _ 1]
    rfl

/-- A ranging is made, and its outcome has to be entered. -/
theorem range_turn_iff {results : ℕ → UInt8} {j : ℕ} {r : Ax5043} (h : Ranging results j r)
    (hj : j < 29) {Q : Ax5043 → Prop} {A : Prop} (hQ : ∀ r', Ranging results (j + 1) r' → (Q r' ↔ A)) :
    range_turn.Returns r Q ↔ Enters (outcomes results (j + 1)) ∧ A := by
  rw [range_turn, returns_block_cons, SpiWriteSingleAddressRegister, returns_act, returns_block_cons,
    SpiWriteLongAddressRegister, returns_act, returns_block_cons, SpiWriteSingleAddressRegister,
    returns_act, returns_block_cons, SpiReadSingleAddressRegister, returns_act, returns_block_cons]
  have h₀ : OffTables 0 r (((r.write (REG_AX5043_IRQMASK1 % 0x80) 0x00).write
      (REG_AX5043_PLLVCOI % 0x1000) (r.write (REG_AX5043_IRQMASK1 % 0x80) 0x00).vcoi).write
      (REG_AX5043_IRQMASK1 % 0x80) 0x10) :=
    ((offTables_write r _ _).trans (offTables_write _ _ _)).trans (offTables_write _ _ _)
  have h₁ := h₀.trans (offTables_seen (a := REG_AX5043_IRQREQUEST1 % 0x80) (by decide) _)
  refine (range_pll_returns (v := results j) (by rw [h₁.shows]; exact h.rangings.answers)
    fun reads hreads => ?_).iff fun r₂ hr₂ => ?_
  · rw [h₁.shows, h.rangings.results reads 0 (hreads.trans h₁.rangings)]
    rfl
  · obtain ⟨hoff, hv⟩ := hr₂
    have h₂ := h₁.trans hoff
    have hnext : ∀ r₃ : Ax5043, r₃.shows = r₂.shows → r₃.reads = r₂.reads → r₃.vcoi = r₂.vcoi →
        r₃.num = r₂.num → Table (outcomes results (j + 1)) r₃ →
        ((block [act fun r => { r with vcoi := r.vcoi + 1 }]).Returns r₃ Q ↔ A) := by
      intro r₃ hshows hreads hvcoi hnum ht
      rw [returns_block_cons, returns_act, returns_block_nil]
      refine hQ _ (h.next (hshows.trans h₂.shows) ?_ (hvcoi.trans h₂.vcoi) (hnum.trans h₂.num) ht)
      rw [hreads, h₂.rangings]
    have htable := h.table.offTables h₂
    have hsucc := outcomes_succ results j
    rw [outcome, ← hv, ← h.vcoi, ← h₂.vcoi] at hsucc
    rw [returns_block_cons, returns_cond]
    by_cases hfail : r₂.pllrng &&& 0x20 = 0
    · rw [if_pos hfail] at hsucc
      rw [if_pos (decide_eq_true hfail), hsucc]
      refine enter_range_iff htable (by rw [h₂.vcoi]; exact h.below (by omega))
        fun r₃ ht hshows hreads hvcoi hnum => hnext r₃ hshows hreads hvcoi hnum (hsucc ▸ ht)
    · rw [if_neg hfail, List.append_nil] at hsucc
      rw [if_neg (by simpa using hfail), hsucc, and_iff_right htable.enters]
      exact hnext r₂ rfl rfl rfl rfl (hsucc ▸ htable)

theorem enters_of_le {results : ℕ → UInt8} {n m : ℕ} (hnm : n ≤ m)
    (h : Enters (outcomes results m)) : Enters (outcomes results n) := by
  induction m, hnm using Nat.le_induction with
  | base => exact h
  | succ m hnm ih =>
      apply ih
      rw [outcomes_succ, outcome] at h
      split_ifs at h
      · exact h.of_concat
      · rwa [List.append_nil] at h

/-- The loop enters all outcomes, or stops. -/
theorem ranging_loop_iff {results : ℕ → UInt8} {Q : Ax5043 → Prop}
    (hQ : ∀ r', Ranging results 29 r' → Q r') : ∀ (k : ℕ) {j : ℕ} {r : Ax5043}, j + k = 29 →
    Ranging results j r → ((loop (fun r => r.vcoi < 0xbf) range_turn).Returns r Q ↔
      Enters (outcomes results 29))
  | 0, j, r, hj, h => by
      obtain rfl : j = 29 := hj
      have hvcoi : r.vcoi = 0xbf := h.vcoi
      rw [returns_loop, if_neg (by rw [hvcoi]; decide)]
      exact iff_of_true (hQ r h) h.table.enters
  | k + 1, j, r, hj, h => by
      have hvcoi : r.vcoi < 0xbf := by
        rw [h.vcoi]
        exact vcoi_lt (j := 29) (by omega) le_rfl
      rw [returns_loop, if_pos (decide_eq_true hvcoi), range_turn_iff h (by omega)
        fun r' h' => ranging_loop_iff hQ k (by omega) h']
      exact and_iff_right_of_imp (enters_of_le (by omega))

/-! ### The choice -/

/-- The rows before row `i` have been looked at; `num` is the last of the smallest ranges there. -/
structure Scanned (rs : List (UInt8 × UInt8)) (i : ℕ) (r : Ax5043) : Prop where
  range_i : r.range_i.toNat = i
  range_num : r.range_num.toNat = rs.length
  range_table : ∀ j (hj : j < rs.length), r.range_table[j]? = some rs[j].1
  range_tableold : ∀ j (hj : j < rs.length), r.range_tableold[j]? = some rs[j].2
  first : i = 0 → r.range_oldnum = 0x0F ∧ r.num = 0
  last : 0 < i → ∃ n, ∃ hn : n < rs.length, n < i ∧ r.num.toNat = n ∧ r.range_oldnum = rs[n].2 ∧
    ∀ j (hj : j < rs.length), j < i → rs[n].2 ≤ rs[j].2 ∧ (rs[j].2 = rs[n].2 → j ≤ n)

/-- The body of the loop over the rows. -/
def scan_turn : Prog Ax5043 := block
  [check fun r => r.range_i < 10,
    cond (fun r => r.range_tableold.toList.getD r.range_i.toNat 0 ≤ r.range_oldnum) (act fun r =>
      { r with
        range_oldnum := r.range_tableold.toList.getD r.range_i.toNat 0
        num := r.range_i }),
    act fun r => { r with range_i := r.range_i + 1 }]

theorem scan_turn_returns {rs : List (UInt8 × UInt8)} {i : ℕ} {r : Ax5043} (h10 : rs.length ≤ 10)
    (hrs : ∀ p ∈ rs, p.2 ≤ 0x0F) (hi : i < rs.length) (h : Scanned rs i r) :
    scan_turn.Returns r fun r' => Scanned rs (i + 1) r' ∧ r'.shows = r.shows ∧ r'.reads = r.reads := by
  have hcheck : r.range_i < 10 := by
    rw [UInt8.lt_iff_toNat_lt, h.range_i]
    exact lt_of_lt_of_le hi h10
  have hget : r.range_tableold.toList.getD r.range_i.toNat 0 = rs[i].2 := by
    rw [h.range_i, List.getD_eq_getElem?_getD, Vector.getElem?_toList, h.range_tableold i hi,
      Option.getD_some]
  have hnext : (r.range_i + 1).toNat = i + 1 := by
    rw [UInt8.toNat_add, h.range_i]
    exact Nat.mod_eq_of_lt (lt_of_le_of_lt (Nat.succ_le_of_lt (lt_of_lt_of_le hi h10)) (by decide))
  rw [scan_turn, returns_block_cons, returns_check, returns_block_cons, returns_cond]
  refine ⟨decide_eq_true hcheck, ?_⟩
  by_cases hle : rs[i].2 ≤ r.range_oldnum
  · rw [if_pos (decide_eq_true (by rw [hget]; exact hle)), returns_act, returns_block_cons,
      returns_act, returns_block_nil]
    refine ⟨⟨hnext, h.range_num, h.range_table, h.range_tableold, fun h0 => by omega, fun _ =>
      ⟨i, hi, Nat.lt_succ_self i, h.range_i, hget, fun j hj hji => ?_⟩⟩, rfl, rfl⟩
    rcases Nat.lt_or_eq_of_le (Nat.le_of_lt_succ hji) with hlt | rfl
    · obtain ⟨n, hn, -, -, hold, hmin⟩ := h.last (by omega)
      exact ⟨(hold ▸ hle).trans (hmin j hj hlt).1, fun _ => hlt.le⟩
    · exact ⟨le_rfl, fun _ => le_rfl⟩
  · rw [if_neg (by rw [hget]; simpa using hle), returns_block_cons, returns_act, returns_block_nil]
    have hpos : 0 < i := by
      refine Nat.pos_of_ne_zero fun h0 => hle ?_
      rw [(h.first h0).1]
      exact hrs _ (List.getElem_mem hi)
    obtain ⟨n, hn, hni, hnum, hold, hmin⟩ := h.last hpos
    refine ⟨⟨hnext, h.range_num, h.range_table, h.range_tableold, fun h0 => by omega, fun _ =>
      ⟨n, hn, by omega, hnum, hold, fun j hj hji => ?_⟩⟩, rfl, rfl⟩
    rcases Nat.lt_or_eq_of_le (Nat.le_of_lt_succ hji) with hlt | rfl
    · exact hmin j hj hlt
    · rw [hold] at hle
      have hlt := UInt8.not_le.mp hle
      exact ⟨UInt8.le_of_lt hlt, fun heq => absurd heq.le hle⟩

theorem scan_loop_returns {rs : List (UInt8 × UInt8)} (h10 : rs.length ≤ 10)
    (hrs : ∀ p ∈ rs, p.2 ≤ 0x0F) : ∀ (k : ℕ) {i : ℕ} {r : Ax5043}, i + k = rs.length →
    Scanned rs i r → (loop (fun r => r.range_i < r.range_num) scan_turn).Returns r fun r' =>
      Scanned rs rs.length r' ∧ r'.shows = r.shows ∧ r'.reads = r.reads
  | 0, i, r, hi, h => by
      obtain rfl : i = rs.length := hi
      have hend : ¬ r.range_i < r.range_num := by
        rw [UInt8.lt_iff_toNat_lt, h.range_i, h.range_num]
        exact lt_irrefl _
      rw [returns_loop, if_neg (by simpa using hend)]
      exact ⟨h, rfl, rfl⟩
  | k + 1, i, r, hi, h => by
      have hgo : r.range_i < r.range_num := by
        rw [UInt8.lt_iff_toNat_lt, h.range_i, h.range_num]
        omega
      rw [returns_loop, if_pos (decide_eq_true hgo)]
      apply (scan_turn_returns h10 hrs (by omega) h).mono
      intro r' h'
      exact (scan_loop_returns h10 hrs k (by omega) h'.1).mono fun r'' h'' =>
        ⟨h''.1, h''.2.1.trans h'.2.1, h''.2.2.trans h'.2.2⟩

/-- The row that has been chosen. -/
theorem Scanned.best {rs : List (UInt8 × UInt8)} {r : Ax5043} (h10 : rs.length ≤ 10)
    (hrs : rs.Pairwise fun p q => p.1 ≤ q.1) (h : Scanned rs rs.length r) :
    r.num < 10 ∧ (rs ≠ [] → Best rs (r.range_table.toList.getD r.num.toNat 0)) := by
  by_cases h0 : rs.length = 0
  · rw [(h.first h0).2]
    exact ⟨by decide, fun hne => absurd (List.length_eq_zero_iff.mp h0) hne⟩
  · obtain ⟨n, hn, -, hnum, -, hmin⟩ := h.last (Nat.pos_of_ne_zero h0)
    refine ⟨?_, fun _ => ?_⟩
    · rw [UInt8.lt_iff_toNat_lt, hnum]
      exact lt_of_lt_of_le hn h10
    · rw [hnum, List.getD_eq_getElem?_getD, Vector.getElem?_toList, h.range_table n hn,
        Option.getD_some]
      exact best_of_last hrs hn fun j hj => hmin j hj hj

/-- What follows the loop over the currents. -/
def choose_vcoi : Prog Ax5043 := block
  [act fun r => { r with range_oldnum := 0x0F, range_i := 0 },
    loop (fun r => r.range_i < r.range_num) scan_turn,
    check fun r => r.num < 10,
    act fun r => { r with minvcoi := r.range_table.toList.getD r.num.toNat 0 },
    SpiWriteSingleAddressRegister REG_AX5043_IRQMASK1 fun _ => 0x10,
    range_pll,
    SpiWriteSingleAddressRegister REG_AX5043_PWRMODE fun _ => 0x0c]

/-- The best current is chosen. -/
theorem choose_vcoi_returns {results : ℕ → UInt8} {r : Ax5043} (h : Ranging results 29 r) :
    choose_vcoi.Returns r fun r' =>
      outcomes results 29 ≠ [] → Best (outcomes results 29) r'.minvcoi := by
  have hsorted := outcomes_pairwise results 29 le_rfl
  have hsub := runs_sublist (outcomes results 29)
  have h10 := h.table.enters.1
  have hrange : ∀ p ∈ runs (outcomes results 29), p.2 ≤ 0x0F := by
    intro p hp
    obtain ⟨j, -, rfl⟩ := mem_outcomes (hsub.subset hp)
    rw [UInt8.le_iff_toNat_le, UInt8.toNat_and]
    exact Nat.and_le_right
  have hstart : Scanned (runs (outcomes results 29)) 0 { r with range_oldnum := 0x0F, range_i := 0 } :=
    ⟨rfl, h.table.range_num, h.table.range_table, h.table.range_tableold, fun _ => ⟨rfl, h.num⟩,
      fun h => absurd h (lt_irrefl 0)⟩
  rw [choose_vcoi, returns_block_cons, returns_act, returns_block_cons]
  apply (scan_loop_returns h10 hrange _ (Nat.zero_add _) hstart).mono
  rintro r₁ ⟨hscan, hshows, hreads⟩
  obtain ⟨hnum, hbest⟩ := hscan.best h10 (hsorted.sublist hsub)
  rw [returns_block_cons, returns_check, returns_block_cons, returns_act, returns_block_cons,
    SpiWriteSingleAddressRegister, returns_act, returns_block_cons]
  refine ⟨decide_eq_true hnum, (range_pll_returns (v := results 29) ?_ fun reads hr => ?_).mono
    fun r₂ hr₂ => ?_⟩
  · show Answers r₁.shows
    rw [hshows]
    exact h.rangings.answers
  · show r₁.shows _ reads = _
    have hr : reads REG_AX5043_PLLRANGINGA = r₁.reads REG_AX5043_PLLRANGINGA := hr
    rw [hshows]
    exact h.rangings.results reads 0 (by rw [hr, hreads]; rfl)
  · rw [returns_block_cons, SpiWriteSingleAddressRegister, returns_act, returns_block_nil]
    intro hne
    show Best _ r₂.minvcoi
    rw [hr₂.1.minvcoi]
    exact (hbest (runs_ne_nil hne)).of_runs hsorted

theorem PLLRang_wait_for_xtal_returns {r : Ax5043} (h : Answers r.shows) :
    PLLRang_wait_for_xtal.Returns r (OffTables 0 r) := by
  have hseen : ∀ {a : ℕ}, a ∉ status → r.seen a = r := fun ha => if_neg ha
  rw [PLLRang_wait_for_xtal, returns_block_cons, SpiReadSingleAddressRegister, returns_act,
    hseen (by decide), returns_block_cons]
  apply (await_xtal (by exact h)).mono
  intro r' h'
  rw [returns_block_cons, SpiWriteSingleAddressRegister, returns_act, returns_block_nil]
  exact ⟨h'.shows, h'.rangings, h'.vcoi, h'.minvcoi, h'.num, h'.range_num, h'.range_oldnum,
    h'.range_table, h'.range_tableold⟩

/-- The tables are emptied. -/
def emptied (r : Ax5043) : Ax5043 :=
  { r with
    range_num := 0
    range_oldnum := 0
    range_table := r.range_table.set 0 0 first_range_lt
    range_tableold := r.range_tableold.set 0 0 first_range_lt
    num := 0 }

/-- The loop over the currents, and what is before it. -/
theorem simple_autorange_pll_returns {r : Ax5043} {Q : Ax5043 → Prop} :
    simple_autorange_pll.Returns r Q ↔
      PLLRang_wait_for_xtal.Returns ((((emptied r).write (REG_AX5043_PLLLOOP % 0x80) 0x09).write
        (REG_AX5043_PLLCPI % 0x80) 0x08).write (REG_AX5043_PWRMODE % 0x80) AX5043_PWRSTATE_XTAL_ON)
        fun r' => (loop (fun r => r.vcoi < 0xbf) range_turn).Returns
          { r' with pllrng := 0x20, vcoi := 0xa2 } fun r'' => choose_vcoi.Returns r'' Q := by
  have hseen : ∀ {a : ℕ} (r : Ax5043), a ∉ status → r.seen a = r := fun r ha => if_neg ha
  rw [simple_autorange_pll, returns_block_cons, returns_act, returns_block_cons,
    SpiReadSingleAddressRegister, returns_act, hseen _ (by decide), returns_block_cons,
    SpiReadSingleAddressRegister, returns_act, hseen _ (by decide), returns_block_cons,
    SpiWriteSingleAddressRegister, returns_act, returns_block_cons, SpiWriteSingleAddressRegister,
    returns_act, returns_block_cons, SpiWriteSingleAddressRegister, returns_act, returns_block_cons]
  refine iff_of_eq (congrArg _ (funext fun r' => propext ?_))
  rw [returns_block_cons, returns_act, returns_block_cons]
  exact Iff.rfl

/-- The function goes through its loop if and only if all outcomes can be entered. -/
theorem simple_autorange_pll_iff {results : ℕ → UInt8} {r : Ax5043} (h : Rangings results r)
    {Q : Ax5043 → Prop} (hQ : ∀ r', Ranging results 29 r' → choose_vcoi.Returns r' Q) :
    simple_autorange_pll.Returns r Q ↔ Enters (outcomes results 29) := by
  have h₀ : OffTables 0 (emptied r) ((((emptied r).write (REG_AX5043_PLLLOOP % 0x80) 0x09).write
      (REG_AX5043_PLLCPI % 0x80) 0x08).write (REG_AX5043_PWRMODE % 0x80) AX5043_PWRSTATE_XTAL_ON) :=
    ((offTables_write _ _ _).trans (offTables_write _ _ _)).trans (offTables_write _ _ _)
  have hanswers : Answers (emptied r).shows := h.answers
  rw [simple_autorange_pll_returns]
  apply (PLLRang_wait_for_xtal_returns (by rw [h₀.shows]; exact hanswers)).iff
  intro r' hr'
  apply ranging_loop_iff hQ 29 (Nat.zero_add 29)
  have hr' := h₀.trans hr'
  have hrangings : r'.reads REG_AX5043_PLLRANGINGA = r.reads REG_AX5043_PLLRANGINGA := hr'.rangings
  have hshows : r'.shows = r.shows := hr'.shows
  have hempty : r'.num = 0 ∧ r'.range_num = 0 ∧ r'.range_oldnum = 0 :=
    ⟨hr'.num, hr'.range_num, hr'.range_oldnum⟩
  have htable : Table [] { r' with pllrng := 0x20, vcoi := 0xa2 } := by
    refine ⟨⟨Nat.zero_le 10, fun p hp => by cases hp⟩, ?_, ?_,
      fun i hi => absurd hi (Nat.not_lt_zero i), fun i hi => absurd hi (Nat.not_lt_zero i)⟩
    · show r'.range_num.toNat = 0
      rw [hempty.2.1]
      rfl
    · exact hempty.2.2
  refine ⟨⟨?_, fun reads i hi => ?_⟩, rfl, hempty.1, htable⟩
  · show Answers r'.shows
    rw [hshows]
    exact h.answers
  · show r'.shows _ reads = _
    have hi : reads REG_AX5043_PLLRANGINGA = r'.reads REG_AX5043_PLLRANGINGA + i := hi
    rw [hshows, Nat.zero_add]
    exact h.results reads i (by rw [hi, hrangings])

/-- **The best current is found** within the tables if and only if the ranges form at most ten runs
and the first one is not `0`. -/
theorem autorange_iff {results : ℕ → UInt8} {r : Ax5043} (h : Rangings results r) :
    simple_autorange_pll.Returns r (fun r' =>
      outcomes results 29 ≠ [] → Best (outcomes results 29) r'.minvcoi) ↔
      (runs (outcomes results 29)).length ≤ 10 ∧
        ∀ p, (outcomes results 29).head? = some p → p.2 ≠ 0 :=
  simple_autorange_pll_iff h fun _ h' => choose_vcoi_returns h'

/-- A chip that is never waited for, with these outcomes. -/
def ranging_chip (results : ℕ → UInt8) (a : ℕ) (reads : ℕ → ℕ) : UInt8 :=
  if a = REG_AX5043_PLLRANGINGA then results (reads a) else 0xFF

theorem ranging_chip_rangings (results : ℕ → UInt8) :
    Rangings results (Ax5043.start (ranging_chip results)) := by
  refine ⟨⟨fun reads => ⟨0, ?_⟩, fun reads => ⟨0, ?_⟩⟩, fun reads j hj => ?_⟩
  · show ranging_chip results REG_AX5043_IRQREQUEST1 (later REG_AX5043_IRQREQUEST1 0 reads) &&& 0x10 ≠ 0
    rw [ranging_chip, if_neg (by decide)]
    decide
  · show ranging_chip results REG_AX5043_XTALSTATUS (later REG_AX5043_XTALSTATUS 0 reads) ≠ 0
    rw [ranging_chip, if_neg (by decide)]
    decide
  · have hj : reads REG_AX5043_PLLRANGINGA = 0 + j := hj
    rw [Nat.zero_add] at hj
    show ranging_chip results REG_AX5043_PLLRANGINGA reads = _
    rw [ranging_chip, if_pos rfl, hj]

/-- The range falls from `9` to `8`. -/
def falling (j : ℕ) : UInt8 := if j < 10 then 9 else 8

theorem autorange_falling :
    simple_autorange_pll.Returns (Ax5043.start (ranging_chip falling)) fun r' =>
      outcomes falling 29 ≠ [] → Best (outcomes falling 29) r'.minvcoi := by
  refine (autorange_iff (ranging_chip_rangings falling)).mpr ⟨by decide +kernel, fun p hp => ?_⟩
  have hfirst : (outcomes falling 29).head? = some (0xA2, 9) := by decide +kernel
  rw [hfirst] at hp
  cases hp
  decide

/-- **The search leaves its tables**: a first range of `0` is entered into the row before the first
one, and ranges that alternate fill more than ten rows. -/
theorem not_autorange :
    (¬ ∀ (results : ℕ → UInt8) (r : Ax5043), Rangings results r →
      simple_autorange_pll.Returns r fun r' =>
        outcomes results 29 ≠ [] → Best (outcomes results 29) r'.minvcoi) ∧
    ¬ simple_autorange_pll.Returns (Ax5043.start (ranging_chip fun j => UInt8.ofNat (j % 2 + 1)))
      fun _ => True := by
  constructor
  · intro hall
    have hzero := (simple_autorange_pll_iff (ranging_chip_rangings fun _ => 0)
      fun _ h => choose_vcoi_returns h).mp (hall _ _ (ranging_chip_rangings fun _ => 0))
    exact hzero.2 (0xA2, 0) (by decide +kernel) rfl
  · intro hreturns
    have hruns := (simple_autorange_pll_iff
      (ranging_chip_rangings fun j => UInt8.ofNat (j % 2 + 1))
      fun _ h => (choose_vcoi_returns h).mono fun _ _ => trivial).mp hreturns
    exact absurd hruns.1 (by decide +kernel)

end MeterTester
