import MeterTester.Distance

/-! # What a rejected frame leaves behind: `rf4068_rx_callback`

A frame is rejected when its length is not 16, when `MS` is not `11`, when a pair has equal bits or
when a row or a column is odd.  Three exits of the callback do this, and all stores of the frame's
fields stand behind the last of them; the signal strength is stored before the first
(`rejected_callback`).  So a rejected frame leaves no trace exactly when it comes with the signal
strength that is already stored (`rejected_traceless_iff`). -/

namespace MeterTester

open BitMatrix ProductCode

/-! ### The getters -/

def get_ax_msid (r : Radio) : ℕ := r.msid
def get_ax_msv (r : Radio) : ℕ := r.msv
def get_ax_rssi (r : Radio) : ℤ := r.ax_rssi
def get_ax_v (r : Radio) : UInt8 := r.v

/-- `get_ax_flag(data)` -/
def get_ax_flag (r : Radio) : Vector UInt8 10 := r.Controllable_Ms_flag

/-- What the getters show is the same. -/
def SameGetters (r r' : Radio) : Prop :=
  get_ax_msid r' = get_ax_msid r ∧ get_ax_msv r' = get_ax_msv r ∧ get_ax_v r' = get_ax_v r ∧
    get_ax_flag r' = get_ax_flag r ∧ get_ax_rssi r' = get_ax_rssi r

/-- The statics of the decoder are all shown by getters. -/
theorem sameGetters_iff (r r' : Radio) : SameGetters r r' ↔ r' = r := by
  constructor
  · rintro ⟨hmsid, hmsv, hv, hflag, hrssi⟩
    cases r
    cases r'
    simp only [get_ax_msid, get_ax_msv, get_ax_v, get_ax_flag, get_ax_rssi] at *
    subst hmsid hmsv hv hflag hrssi
    rfl
  · rintro rfl
    exact ⟨rfl, rfl, rfl, rfl, rfl⟩

/-! ### The three exits -/

/-- Two bits that are sent as one cell are equal. -/
def EqualPair (rx_buffer : List UInt8) : Prop :=
  ∃ i < 16, ∃ j < 4, (rx_buffer.getD i 0).toNat.testBit (7 - j * 2) =
    (rx_buffer.getD i 0).toNat.testBit (6 - j * 2)

/-- A row or a column of the received matrix has an odd number of ones. -/
def OddLine (rx_buffer : List UInt8) : Prop :=
  ∃ i < 8, parity (received_matrix rx_buffer i) 8 = true ∨
    parity (fun row => received_matrix rx_buffer row i) 8 = true

/-- The frame is not accepted. -/
def Rejected (rx_buffer : List UInt8) (rx_len MS : ℕ) : Prop :=
  rx_len ≠ 16 ∨ MS ≠ 11 ∨ EqualPair rx_buffer ∨ OddLine rx_buffer

theorem unequalPairs_iff (rx_buffer : List UInt8) :
    UnequalPairs rx_buffer ↔ ¬ EqualPair rx_buffer := by
  unfold UnequalPairs EqualPair
  push Not
  apply forall₂_congr
  intro i _
  apply forall₂_congr
  intro j _
  cases (rx_buffer.getD i 0).toNat.testBit (7 - j * 2) <;>
    cases (rx_buffer.getD i 0).toNat.testBit (6 - j * 2) <;> decide

theorem evenMatrix_iff_not_oddLine (rx_buffer : List UInt8) :
    EvenMatrix 8 8 (received_matrix rx_buffer) ↔ ¬ OddLine rx_buffer := by
  unfold EvenMatrix OddLine
  push Not
  simp only [Bool.not_eq_true]
  exact (forall₂_and).symm

/-- A loop that treats the elements alike ends alike. -/
theorem foldlM_congr {α σ : Type} {f g : σ → α → Option σ} {l : List α} {s : σ}
    (h : ∀ a ∈ l, ∀ t, f t a = g t a) : l.foldlM f s = l.foldlM g s := by
  induction l generalizing s with
  | nil => rfl
  | cons a l ih =>
      rw [List.foldlM_cons, List.foldlM_cons, h a (List.mem_cons_self ..) s]
      exact bind_congr fun t => ih fun b hb => h b (List.mem_cons_of_mem a hb)

/-- The Manchester check passes exactly the frames of unequal pairs, and gives their matrix. -/
theorem manchester_of_unequal {rx_buffer : List UInt8} (h : UnequalPairs rx_buffer) :
    manchester rx_buffer = some (matrix_bytes (received_matrix rx_buffer)) := by
  rw [← manchester_manchester_code]
  apply foldlM_congr
  intro i hi data_buffer
  have hi16 := List.mem_range.mp hi
  have hbyte : rx_buffer.getD i 0 = (manchester_code (received_matrix rx_buffer)).getD i 0 := by
    rw [manchester_code_getD _ hi16]
    apply byte_ext
    intro t ht
    rw [byteOf_testBit _ ht, received_pairs h hi16 ht]
  rw [hbyte]

/-- The callback does not accept what is rejected, and nothing else. -/
theorem accept_eq_none_iff (rx_buffer : List UInt8) (rx_len MS : ℕ) :
    accept rx_buffer rx_len MS = none ↔ Rejected rx_buffer rx_len MS := by
  unfold accept Rejected
  by_cases hgate : rx_len = 16 ∧ MS = 11
  · obtain ⟨rfl, rfl⟩ := hgate
    rw [if_pos ⟨rfl, rfl⟩]
    by_cases hp : EqualPair rx_buffer
    · have hnone : manchester rx_buffer = none := by
        cases hm : manchester rx_buffer with
        | none => rfl
        | some ds =>
            exact absurd hp ((unequalPairs_iff rx_buffer).mp (manchester_unequal hm))
      simp [hnone, hp]
    · have hm := manchester_of_unequal ((unequalPairs_iff rx_buffer).mpr hp)
      have heven := (validity_iff_evenMatrix _).trans (evenMatrix_iff_not_oddLine rx_buffer)
      by_cases ho : OddLine rx_buffer
      · have hv : validity (matrix_bytes (received_matrix rx_buffer)) = false := by
          rw [Bool.eq_false_iff]
          exact fun h => heven.mp h ho
        simp [hm, hv, ho]
      · simp [hm, heven.mpr ho, hp, ho]
  · rw [if_neg hgate]
    have : rx_len ≠ 16 ∨ MS ≠ 11 := by tauto
    tauto

/-! ### The trace -/

/-- A rejected frame leaves its signal strength, and nothing else. -/
theorem rejected_callback {rx_buffer : List UInt8} {rx_len MS : ℕ}
    (h : Rejected rx_buffer rx_len MS) (rssi : ℤ) (r : Radio) :
    rf4068_rx_callback rssi rx_buffer rx_len r MS =
      ({ r with ax_rssi := rssi + RSSI_JIA - RSSI_JIAN }, MS) := by
  rw [rf4068_rx_callback, (accept_eq_none_iff rx_buffer rx_len MS).mpr h]

/-- **A rejected frame** leaves what the getters show and `MS` as they were exactly when its signal
strength is the stored one. -/
theorem rejected_traceless_iff {rx_buffer : List UInt8} {rx_len MS : ℕ}
    (h : Rejected rx_buffer rx_len MS) (rssi : ℤ) (r : Radio) :
    (SameGetters r (rf4068_rx_callback rssi rx_buffer rx_len r MS).1 ∧
        (rf4068_rx_callback rssi rx_buffer rx_len r MS).2 = MS) ↔
      rssi + RSSI_JIA - RSSI_JIAN = get_ax_rssi r := by
  rw [rejected_callback h, sameGetters_iff]
  constructor
  · rintro ⟨hr, -⟩
    exact congrArg Radio.ax_rssi hr
  · intro hrssi
    exact ⟨by rw [hrssi, get_ax_rssi], rfl⟩

/-- A packet of three bytes, as strong as the last one. -/
theorem rejected_traceless_short :
    SameGetters { Radio.start with ax_rssi := -70 }
        (rf4068_rx_callback (-70) [1, 2, 3] 3 { Radio.start with ax_rssi := -70 } 11).1 ∧
      (rf4068_rx_callback (-70) [1, 2, 3] 3 { Radio.start with ax_rssi := -70 } 11).2 = 11 :=
  (rejected_traceless_iff (.inl (by decide)) (-70) { Radio.start with ax_rssi := -70 }).mpr rfl

/-- A weaker packet of three bytes changes the signal strength of the frame before. -/
theorem not_rejected_traceless :
    get_ax_rssi (rf4068_rx_callback (-100) [1, 2, 3] 3 { Radio.start with ax_rssi := -70 } 11).1 =
        -100 ∧
      ¬ ∀ (rssi : ℤ) (rx_buffer : List UInt8) (rx_len : ℕ) (r : Radio) (MS : ℕ),
        Rejected rx_buffer rx_len MS →
          SameGetters r (rf4068_rx_callback rssi rx_buffer rx_len r MS).1 ∧
            (rf4068_rx_callback rssi rx_buffer rx_len r MS).2 = MS := by
  have hrssi : get_ax_rssi
      (rf4068_rx_callback (-100) [1, 2, 3] 3 { Radio.start with ax_rssi := -70 } 11).1 = -100 := rfl
  refine ⟨hrssi, fun h => ?_⟩
  obtain ⟨hsame, -⟩ := h (-100) [1, 2, 3] 3 { Radio.start with ax_rssi := -70 } 11 (.inl (by decide))
  exact absurd (hrssi.symm.trans hsame.2.2.2.2) (by decide)

end MeterTester
