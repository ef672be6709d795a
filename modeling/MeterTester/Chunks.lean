import MeterTester.Driver
import MeterTester.Returns

/-! # The chunks of the receive FIFO: `ReceiveData`

The FIFO holds chunks: a header with a command in the lower five bits and a length in the upper
three, where `7` says that the length is in a byte of its own, and then so many bytes of payload.
`ReceiveData` takes the commands it knows apart and drops the others, each in a way of its own; a
turn of its loop takes exactly one chunk (`receive_turn_turned`).

`ReceiveData` without its check is the code that stores a payload whatever its length, behind
`RXBuff` too; with the check it stops before it does (`receive_turn_checked`). -/

namespace MeterTester

open Interleave Interleave.Prog Ax5043

namespace Ax5043

/-- `k` bytes have been taken from the FIFO. -/
def pop (r : Ax5043) (k : ℕ) : Ax5043 :=
  { r with reads := fun b => if b = REG_AX5043_FIFODATA then r.reads b + k else r.reads b }

theorem pop_zero (r : Ax5043) : r.pop 0 = r := by simp [pop]

theorem pop_pop (r : Ax5043) (j k : ℕ) : (r.pop j).pop k = r.pop (j + k) := by
  simp only [pop, Ax5043.mk.injEq, true_and, and_true]
  funext b
  split_ifs <;> omega

@[simp] theorem reads_pop (r : Ax5043) (k : ℕ) :
    (r.pop k).reads REG_AX5043_FIFODATA = r.reads REG_AX5043_FIFODATA + k := by simp [pop]

theorem seen_FIFODATA (r : Ax5043) : r.seen REG_AX5043_FIFODATA = r.pop 1 := by
  rw [seen, if_pos (by decide), pop]
  simp only [Ax5043.mk.injEq, true_and, and_true]
  funext b
  split_ifs with h
  · rw [h]
  · rfl

/-- Byte `i` of the FIFO, the next one being byte `0`. -/
def byte (r : Ax5043) (i : ℕ) : UInt8 := r.shows REG_AX5043_FIFODATA (r.pop i).reads

theorem shown_FIFODATA (r : Ax5043) : r.shown REG_AX5043_FIFODATA = r.byte 0 := by
  rw [byte, pop_zero, shown, if_pos (by decide)]

@[simp] theorem byte_pop (r : Ax5043) (k i : ℕ) : (r.pop k).byte i = r.byte (k + i) := by
  rw [byte, byte, pop_pop]
  rfl

end Ax5043

/-! ### Dropping bytes -/

theorem len_pred {len : UInt8} (h0 : len ≠ 0) : 1 ≤ len.toNat ∧ (len - 1).toNat = len.toNat - 1 := by
  have hpos : 1 ≤ len.toNat := Nat.one_le_iff_ne_zero.mpr fun h => h0 (UInt8.toNat_inj.mp h)
  exact ⟨hpos, UInt8.toNat_sub_of_le _ _ (by rw [UInt8.le_iff_toNat_le]; exact hpos)⟩

theorem drop_byte_returns {r : Ax5043} {Q : Ax5043 → Prop} : drop_byte.Returns r Q ↔ Q (r.pop 1) := by
  rw [drop_byte, SpiReadSingleAddressRegister, returns_act]
  exact iff_of_eq (congrArg Q (seen_FIFODATA r))

/-- A counter of eight bits drops that many bytes. -/
theorem drop_loop : ∀ (k : ℕ) {r : Ax5043} {Q : Ax5043 → Prop}, r.ubTepm.toNat = k →
    ((loop (fun r => r.ubTepm ≠ 0)
      (block [drop_byte, act fun r => { r with ubTepm := r.ubTepm - 1 }])).Returns r Q ↔
      Q { r.pop k with ubTepm := 0 })
  | 0, r, Q, hk => by
      have h0 : r.ubTepm = 0 := UInt8.toNat_inj.mp hk
      rw [returns_loop, if_neg (by simp [h0]), pop_zero, ← h0]
  | k + 1, r, Q, hk => by
      have h0 : r.ubTepm ≠ 0 := fun h => by rw [h] at hk; cases hk
      have hsub : (r.ubTepm - 1).toNat = k := by
        rw [UInt8.toNat_sub_of_le _ _ (by rw [UInt8.le_iff_toNat_le, hk]; exact Nat.succ_pos k), hk]
        rfl
      rw [returns_loop, if_pos (by simpa using h0), returns_block_cons, drop_byte_returns,
        returns_block_cons, returns_act, returns_block_nil, drop_loop k (by exact hsub)]
      show Q { (r.pop 1).pop k with ubTepm := 0 } ↔ Q { r.pop (k + 1) with ubTepm := 0 }
      rw [pop_pop, Nat.add_comm 1 k]

/-- The code at `dropchunk` takes as many bytes as `ubDataLen` says. -/
theorem dropchunk_returns {r : Ax5043} {Q : Ax5043 → Prop} : dropchunk.Returns r Q ↔
    Q { r.pop r.ubDataLen.toNat with ubTepm := if r.ubDataLen = 0 then r.ubTepm else 0 } := by
  rw [dropchunk, returns_cond]
  by_cases h0 : r.ubDataLen = 0
  · rw [if_neg (by simpa using h0), if_pos h0, h0]
    exact iff_of_eq (congrArg Q (pop_zero r).symm)
  · obtain ⟨hpos, hsub⟩ := len_pred h0
    rw [if_pos (by simpa using h0), returns_block_cons, returns_act, returns_block_cons,
      returns_do_while, returns_block_cons, drop_byte_returns, returns_block_cons, returns_act,
      returns_block_nil, drop_loop (r.ubDataLen.toNat - 1) hsub, returns_block_nil, if_neg h0]
    show Q { (r.pop 1).pop (r.ubDataLen.toNat - 1) with ubTepm := 0 } ↔ _
    rw [pop_pop, Nat.add_sub_cancel' hpos]

/-! ### Storing bytes -/

/-- `k` bytes have been stored from `RXBuff` on. -/
structure Stored (k : ℕ) (r r' : Ax5043) : Prop where
  shows : r'.shows = r.shows
  config : r'.config = r.config
  ubRssi : r'.ubRssi = r.ubRssi
  ubDataLen : r'.ubDataLen = r.ubDataLen
  reads : r'.reads = (r.pop k).reads
  RXBuff : k ≤ 64 → ∀ i < k, r'.RXBuff[i]? = some (r.byte i)

theorem Stored.byte {k : ℕ} {r r' : Ax5043} (h : Stored k r r') (i : ℕ) :
    r'.byte i = r.byte (k + i) := by
  rw [← byte_pop, Ax5043.byte, Ax5043.byte, h.shows]
  simp only [pop, h.reads]

theorem Stored.next {k : ℕ} {r r' : Ax5043} (h : Stored k r r') :
    Stored (k + 1) r ((r'.seen REG_AX5043_FIFODATA).store (RXBuff_offset + k)
      (r'.shown REG_AX5043_FIFODATA)) := by
  rw [seen_FIFODATA, shown_FIFODATA, h.byte 0]
  have hkept : ∀ (r : Ax5043) (i : ℕ) (b : UInt8), (r.store i b).shows = r.shows ∧
      (r.store i b).config = r.config ∧ (r.store i b).ubRssi = r.ubRssi ∧
      (r.store i b).ubDataLen = r.ubDataLen ∧ (r.store i b).reads = r.reads := by
    intro r i b
    unfold store
    split_ifs <;> exact ⟨rfl, rfl, rfl, rfl, rfl⟩
  obtain ⟨h₁, h₂, h₃, h₄, h₅⟩ := hkept (r'.pop 1) (RXBuff_offset + k) (r.byte (k + 0))
  refine ⟨h₁.trans h.shows, h₂.trans h.config, h₃.trans h.ubRssi, h₄.trans h.ubDataLen, ?_, ?_⟩
  · rw [h₅, ← pop_pop]
    simp only [pop, h.reads]
  · intro hk i hi
    have hbuff : ((r'.pop 1).store (RXBuff_offset + k) (r.byte (k + 0))).RXBuff =
        r'.RXBuff.setIfInBounds k (r.byte k) := by
      rw [store, if_neg (by unfold RXBuff_offset; omega), if_neg (by unfold RXBuff_offset; omega),
        if_pos (by unfold RXBuff_offset; omega), RXBuff_offset, Nat.add_sub_cancel_left]
      rfl
    rw [hbuff, Vector.getElem?_setIfInBounds]
    by_cases hik : k = i
    · rw [if_pos hik, if_pos (by omega), hik]
    · rw [if_neg hik]
      exact h.RXBuff (by omega) i (by omega)

theorem SpiReadData_stored (len : UInt8) (r : Ax5043) :
    Stored len.toNat r (SpiReadData RXBuff_offset len r) := by
  rw [SpiReadData]
  generalize len.toNat = n
  induction n with
  | zero => exact ⟨rfl, rfl, rfl, rfl, (congrArg Ax5043.reads (pop_zero r)).symm, fun _ i hi => by omega⟩
  | succ n ih =>
      rw [List.range_succ, List.foldl_append]
      exact ih.next

/-! ### A chunk -/

section chunk
variable (s : ℕ → UInt8)

/-- The command of the chunk that begins the stream. -/
def chunk_cmd : UInt8 := s 0 &&& 0x1F

/-- The length in the header. -/
def chunk_short : UInt8 := (s 0 &&& 0xE0) >>> 5

/-- Where the payload begins. -/
def chunk_head : ℕ := if chunk_short s = 7 then 2 else 1

/-- The length of the payload. -/
def chunk_len : UInt8 := if chunk_short s = 7 then s 1 else chunk_short s

def chunk_size : ℕ := chunk_head s + (chunk_len s).toNat

end chunk

/-- A chunk with the command `ubTemCom` and a payload of `ubDataLen` bytes has been taken. -/
structure Taken (r r' : Ax5043) : Prop where
  shows : r'.shows = r.shows
  config : r'.config = r.config
  reads : r'.reads = (r.pop r.ubDataLen.toNat).reads
  ubRssi : r'.ubRssi = if r.ubTemCom = AX5043_FIFOCMD_RSSI ∧ r.ubDataLen = 1
    then (r.byte 0).toInt8.toInt - r.config.axradio_phy_rssioffset.toInt else r.ubRssi
  RxLen : r'.RxLen = if r.ubTemCom = AX5043_FIFOCMD_DATA ∧ r.ubDataLen ≠ 0
    then r.ubDataLen - 1 else r.RxLen
  RXBuff : r.ubTemCom = AX5043_FIFOCMD_DATA ∧ r.ubDataLen ≠ 0 → r.ubDataLen.toNat ≤ 65 →
    ∀ i < r.ubDataLen.toNat - 1, r'.RXBuff[i]? = some (r.byte (1 + i))
  others : ¬ (r.ubTemCom = AX5043_FIFOCMD_DATA ∧ r.ubDataLen ≠ 0) → r'.RXBuff = r.RXBuff

/-- A chunk that is dropped. -/
theorem Taken.pop {r : Ax5043} (hdata : ¬ (r.ubTemCom = AX5043_FIFOCMD_DATA ∧ r.ubDataLen ≠ 0))
    (hrssi : ¬ (r.ubTemCom = AX5043_FIFOCMD_RSSI ∧ r.ubDataLen = 1)) :
    Taken r (r.pop r.ubDataLen.toNat) :=
  ⟨rfl, rfl, rfl, (if_neg hrssi).symm, (if_neg hdata).symm, fun h => absurd h hdata, fun _ => rfl⟩

theorem dropchunk_taken {r : Ax5043} (hdata : ¬ (r.ubTemCom = AX5043_FIFOCMD_DATA ∧ r.ubDataLen ≠ 0))
    (hrssi : ¬ (r.ubTemCom = AX5043_FIFOCMD_RSSI ∧ r.ubDataLen = 1)) :
    dropchunk.Returns r (Taken r) := by
  rw [dropchunk_returns]
  have h := Taken.pop hdata hrssi
  exact ⟨h.shows, h.config, h.reads, h.ubRssi, h.RxLen, h.RXBuff, h.others⟩

/-- Three bytes are taken from a chunk of three, any other length is dropped. -/
theorem three_taken {r : Ax5043} (hdata : r.ubTemCom ≠ AX5043_FIFOCMD_DATA)
    (hrssi : r.ubTemCom ≠ AX5043_FIFOCMD_RSSI) :
    (ite (fun r => r.ubDataLen ≠ 3) dropchunk (block [drop_byte, drop_byte, drop_byte])).Returns r
      (Taken r) := by
  rw [returns_ite]
  by_cases h3 : r.ubDataLen = 3
  · rw [if_neg (by simpa using h3)]
    simp only [returns_block_cons, returns_block_nil, drop_byte_returns, pop_pop]
    have h := Taken.pop (r := r) (fun h => hdata h.1) fun h => hrssi h.1
    rwa [h3] at h
  · rw [if_pos (by simpa using h3)]
    exact dropchunk_taken (fun h => hdata h.1) fun h => hrssi h.1

/-- The one byte of an `RSSI` chunk becomes the signal strength. -/
theorem rssi_taken {r : Ax5043} (hcmd : r.ubTemCom = AX5043_FIFOCMD_RSSI) :
    (ite (fun r => r.ubDataLen ≠ 1) dropchunk
      (SpiReadSingleAddressRegister REG_AX5043_FIFODATA fun r v =>
        { r with ubRssi := v.toInt8.toInt - r.config.axradio_phy_rssioffset.toInt })).Returns r
      (Taken r) := by
  have hdata : ¬ (r.ubTemCom = AX5043_FIFOCMD_DATA ∧ r.ubDataLen ≠ 0) := by
    rw [hcmd]
    exact fun h => absurd h.1 (by decide)
  rw [returns_ite]
  by_cases h1 : r.ubDataLen = 1
  · rw [if_neg (by simpa using h1), SpiReadSingleAddressRegister, returns_act,
      show REG_AX5043_FIFODATA % 0x80 = REG_AX5043_FIFODATA from rfl, seen_FIFODATA, shown_FIFODATA]
    refine ⟨rfl, rfl, ?_, (if_pos ⟨hcmd, h1⟩).symm, (if_neg hdata).symm, fun h => absurd h hdata,
      fun _ => rfl⟩
    rw [h1]
    rfl
  · rw [if_pos (by simpa using h1)]
    exact dropchunk_taken hdata fun h => h1 h.2

/-- One byte of an `ANTRSSI` chunk is taken and the rest is dropped. -/
theorem antrssi_taken {r : Ax5043} (hcmd : r.ubTemCom = AX5043_FIFOCMD_ANTRSSI) :
    (cond (fun r => r.ubDataLen ≠ 0) (block
      [drop_byte, act fun r => { r with ubDataLen := r.ubDataLen - 1 }, dropchunk])).Returns r
      (Taken r) := by
  have h := Taken.pop (r := r) (fun h => absurd (hcmd.symm.trans h.1) (by decide))
    fun h => absurd (hcmd.symm.trans h.1) (by decide)
  rw [returns_cond]
  by_cases h0 : r.ubDataLen = 0
  · rw [if_neg (by simpa using h0)]
    rwa [h0, UInt8.toNat_zero, pop_zero] at h
  · obtain ⟨hpos, hsub⟩ := len_pred h0
    rw [if_pos (by simpa using h0), returns_block_cons, drop_byte_returns, returns_block_cons,
      returns_act, returns_block_cons, dropchunk_returns, returns_block_nil]
    refine ⟨h.shows, h.config, ?_, h.ubRssi, h.RxLen, h.RXBuff, h.others⟩
    rw [← Nat.add_sub_cancel' hpos, ← pop_pop, ← hsub]
    rfl

/-- The payload is stored. -/
def store_payload : Prog Ax5043 := block
  [act fun r => SpiReadData RXBuff_offset r.ubDataLen r,
    act fun r => { r with RxLen := r.ubDataLen },
    SpiReadSingleAddressRegister REG_AX5043_IRQMASK0 fun r v => { r with ubTepm := v },
    SpiWriteSingleAddressRegister REG_AX5043_IRQMASK0 fun r => r.ubTepm &&& ~~~0x01]

/-- The arm of the `DATA` chunks, with `p` before the payload is stored. -/
def data_arm (p : Prog Ax5043) : Prog Ax5043 :=
  cond (fun r => r.ubDataLen ≠ 0) <| seq drop_byte <|
    seq (act fun r => { r with ubDataLen := r.ubDataLen - 1 }) <| seq p store_payload

/-- The flag byte is taken. -/
def Ax5043.flagged (r : Ax5043) : Ax5043 := { r.pop 1 with ubDataLen := r.ubDataLen - 1 }

theorem data_arm_returns {p : Prog Ax5043} {r : Ax5043} {Q : Ax5043 → Prop} :
    (data_arm p).Returns r Q ↔
      if r.ubDataLen = 0 then Q r else p.Returns r.flagged fun r' => store_payload.Returns r' Q := by
  rw [data_arm, returns_cond]
  by_cases h0 : r.ubDataLen = 0
  · rw [if_neg (by simpa using h0), if_pos h0]
  · rw [if_pos (by simpa using h0), if_neg h0, returns_seq, drop_byte_returns, returns_seq,
      returns_act, returns_seq]
    rfl

/-- The payload of a `DATA` chunk behind its flag byte is stored. -/
theorem data_taken {r : Ax5043} (hcmd : r.ubTemCom = AX5043_FIFOCMD_DATA) :
    (data_arm skip).Returns r (Taken r) := by
  have hrssi : ¬ (r.ubTemCom = AX5043_FIFOCMD_RSSI ∧ r.ubDataLen = 1) := by
    rw [hcmd]
    exact fun h => absurd h.1 (by decide)
  rw [data_arm_returns]
  by_cases h0 : r.ubDataLen = 0
  · rw [if_pos h0]
    have h := Taken.pop (fun h => h.2 h0) hrssi
    rwa [h0, UInt8.toNat_zero, pop_zero] at h
  · obtain ⟨hpos, hsub⟩ := len_pred h0
    have h := SpiReadData_stored (r.ubDataLen - 1) r.flagged
    have hmask : ∀ r : Ax5043, r.seen (REG_AX5043_IRQMASK0 % 0x80) = r := fun r => if_neg (by decide)
    rw [if_neg h0, returns_skip, store_payload, returns_block_cons, returns_act, returns_block_cons,
      returns_act, returns_block_cons, SpiReadSingleAddressRegister, returns_act, hmask,
      returns_block_cons, SpiWriteSingleAddressRegister, returns_act, returns_block_nil]
    refine ⟨h.shows, h.config, ?_, ?_, ?_, fun _ h65 i hi => ?_, fun hn => absurd ⟨hcmd, h0⟩ hn⟩
    · apply h.reads.trans
      rw [hsub, ← Nat.add_sub_cancel' hpos, ← pop_pop, Nat.add_sub_cancel_left]
      rfl
    · exact h.ubRssi.trans (if_neg hrssi).symm
    · exact h.ubDataLen.trans (if_pos ⟨hcmd, h0⟩).symm
    · refine (h.RXBuff (by omega) i (by omega)).trans (congrArg some ?_)
      exact byte_pop r 1 i

/-- The `switch` over the command, with `p` before a payload is stored. -/
def chunk_switch (p : Prog Ax5043) : Prog Ax5043 :=
  switch_default (·.ubTemCom.toNat) dropchunk
    [(AX5043_FIFOCMD_DATA.toNat, data_arm p),
      (AX5043_FIFOCMD_RFFREQOFFS.toNat,
        ite (fun r => r.ubDataLen ≠ 3) dropchunk (block [drop_byte, drop_byte, drop_byte])),
      (AX5043_FIFOCMD_RSSI.toNat,
        ite (fun r => r.ubDataLen ≠ 1) dropchunk
          (SpiReadSingleAddressRegister REG_AX5043_FIFODATA fun r v =>
            { r with ubRssi := v.toInt8.toInt - r.config.axradio_phy_rssioffset.toInt })),
      (AX5043_FIFOCMD_TIMER.toNat,
        ite (fun r => r.ubDataLen ≠ 3) dropchunk (block [drop_byte, drop_byte, drop_byte])),
      (AX5043_FIFOCMD_ANTRSSI.toNat, cond (fun r => r.ubDataLen ≠ 0) (block
        [drop_byte, act fun r => { r with ubDataLen := r.ubDataLen - 1 }, dropchunk]))]

theorem receive_chunk_eq : receive_chunk = chunk_switch (check fun r => r.ubDataLen ≤ 64) := rfl

theorem chunk_switch_data {p : Prog Ax5043} {r : Ax5043} {Q : Ax5043 → Prop}
    (hcmd : r.ubTemCom = AX5043_FIFOCMD_DATA) :
    (chunk_switch p).Returns r Q ↔ (data_arm p).Returns r Q := by
  rw [chunk_switch, returns_switch_default, hcmd]
  rfl

theorem chunk_switch_others {p q : Prog Ax5043} {r : Ax5043} {Q : Ax5043 → Prop}
    (hcmd : r.ubTemCom ≠ AX5043_FIFOCMD_DATA) :
    (chunk_switch p).Returns r Q ↔ (chunk_switch q).Returns r Q := by
  have hne : (r.ubTemCom.toNat == AX5043_FIFOCMD_DATA.toNat) = false :=
    beq_eq_false_iff_ne.mpr fun he => hcmd (UInt8.toNat_inj.mp he)
  rw [chunk_switch, chunk_switch, returns_switch_default, returns_switch_default]
  simp only [List.lookup_cons, hne]

/-- Every arm of the `switch` takes exactly the payload. -/
theorem chunk_switch_taken (r : Ax5043) : (chunk_switch skip).Returns r (Taken r) := by
  by_cases h₁ : r.ubTemCom = AX5043_FIFOCMD_DATA
  · rw [chunk_switch_data h₁]
    exact data_taken h₁
  rw [chunk_switch, returns_switch_default]
  by_cases h₂ : r.ubTemCom = AX5043_FIFOCMD_RSSI
  · rw [h₂]
    exact rssi_taken h₂
  by_cases h₃ : r.ubTemCom = AX5043_FIFOCMD_RFFREQOFFS
  · rw [h₃]
    exact three_taken h₁ h₂
  by_cases h₄ : r.ubTemCom = AX5043_FIFOCMD_TIMER
  · rw [h₄]
    exact three_taken h₁ h₂
  by_cases h₅ : r.ubTemCom = AX5043_FIFOCMD_ANTRSSI
  · rw [h₅]
    exact antrssi_taken h₅
  have hne : ∀ {c : UInt8}, r.ubTemCom ≠ c → (r.ubTemCom.toNat == c.toNat) = false := fun h =>
    beq_eq_false_iff_ne.mpr fun he => h (UInt8.toNat_inj.mp he)
  simp only [List.lookup_cons, hne h₁, hne h₂, hne h₃, hne h₄, hne h₅]
  exact dropchunk_taken (fun h => h₁ h.1) fun h => h₂ h.1

/-- With its check, the `switch` goes on where there is room for the payload. -/
theorem receive_chunk_checked {r : Ax5043} {Q : Ax5043 → Prop} : receive_chunk.Returns r Q ↔
    (r.ubTemCom = AX5043_FIFOCMD_DATA → r.ubDataLen.toNat ≤ 65) ∧
      (chunk_switch skip).Returns r Q := by
  rw [receive_chunk_eq]
  by_cases h₁ : r.ubTemCom = AX5043_FIFOCMD_DATA
  · rw [chunk_switch_data h₁, chunk_switch_data h₁, data_arm_returns, data_arm_returns]
    by_cases h0 : r.ubDataLen = 0
    · rw [if_pos h0, if_pos h0, h0]
      exact (and_iff_right fun _ => Nat.zero_le 65).symm
    · have hroom : decide (r.ubDataLen - 1 ≤ 64) = true ↔ r.ubDataLen.toNat ≤ 65 := by
        rw [decide_eq_true_iff, UInt8.le_iff_toNat_le, (len_pred h0).2]
        exact Nat.sub_le_iff_le_add
      rw [if_neg h0, if_neg h0, returns_check, returns_skip]
      exact and_congr_left fun _ => hroom.trans ⟨fun h _ => h, fun h => h h₁⟩
  · rw [chunk_switch_others h₁]
    exact (and_iff_right fun h => absurd h h₁).symm

/-! ### A turn -/

/-- The body of the loop of `ReceiveData` around the `switch` `p`. -/
def receive_turn (p : Prog Ax5043) : Prog Ax5043 := block
  [SpiReadSingleAddressRegister REG_AX5043_FIFODATA fun r v => { r with ubTemCom := v },
    act fun r => { r with ubDataLen := (r.ubTemCom &&& 0xE0) >>> (5 : UInt8) },
    cond (fun r => r.ubDataLen = 0x07)
      (SpiReadSingleAddressRegister REG_AX5043_FIFODATA fun r v => { r with ubDataLen := v }),
    act fun r => { r with ubTemCom := r.ubTemCom &&& 0x1F },
    p,
    read_irqrequest0]

/-- `ReceiveData` around the `switch` `p`. -/
def receive_with (p : Prog Ax5043) : Prog Ax5043 := block
  [act fun r => { r with ubRssi := 0, RxLen := 0, RXBuff := Vector.replicate 64 0 },
    SpiReadSingleAddressRegister REG_AX5043_RADIOEVENTREQ0 fun r v => { r with ubDataLen := v },
    read_irqrequest0,
    loop (fun r => r.irqrequest0 &&& 0x01 ≠ 0) (receive_turn p)]

theorem ReceiveData_eq : ReceiveData = receive_with receive_chunk := rfl

theorem ReceiveData_unchecked : ReceiveData.unchecked = receive_with (chunk_switch skip) := rfl

/-- The header is taken. -/
def Ax5043.headed (r : Ax5043) : Ax5043 :=
  { r.pop (chunk_head r.byte) with ubTemCom := chunk_cmd r.byte, ubDataLen := chunk_len r.byte }

/-- The test of the loop. -/
def Ax5043.tested (r : Ax5043) : Ax5043 :=
  { r.seen REG_AX5043_IRQREQUEST0 with irqrequest0 := r.shown REG_AX5043_IRQREQUEST0 }

theorem read_irqrequest0_returns {r : Ax5043} {Q : Ax5043 → Prop} :
    (block [read_irqrequest0]).Returns r Q ↔ Q r.tested := by
  rw [returns_block_cons, read_irqrequest0, SpiReadSingleAddressRegister, returns_act,
    returns_block_nil]
  rfl

theorem receive_turn_headed {p : Prog Ax5043} {r : Ax5043} {Q : Ax5043 → Prop} :
    (receive_turn p).Returns r Q ↔ p.Returns r.headed fun r' => Q r'.tested := by
  have hread : REG_AX5043_FIFODATA % 0x80 = REG_AX5043_FIFODATA := rfl
  rw [receive_turn, returns_block_cons, SpiReadSingleAddressRegister, returns_act, hread,
    seen_FIFODATA, shown_FIFODATA, returns_block_cons, returns_act, returns_block_cons,
    returns_cond]
  by_cases h : chunk_short r.byte = 7
  · rw [if_pos (by simpa [chunk_short] using h), SpiReadSingleAddressRegister, returns_act, hread,
      seen_FIFODATA, shown_FIFODATA, returns_block_cons, returns_act, returns_block_cons]
    simp only [read_irqrequest0_returns]
    rw [headed, chunk_head, if_pos h, chunk_len, if_pos h,
      show r.pop 2 = (r.pop 1).pop 1 from (pop_pop r 1 1).symm,
      show r.byte 1 = (r.pop 1).byte 0 from (byte_pop r 1 0).symm]
    exact Iff.rfl
  · rw [if_neg (by simpa [chunk_short] using h), returns_block_cons, returns_act, returns_block_cons]
    simp only [read_irqrequest0_returns]
    rw [headed, chunk_head, if_neg h, chunk_len, if_neg h]
    exact Iff.rfl

/-- One chunk of the FIFO has been taken, and the test of the loop made. -/
structure Turned (r r' : Ax5043) : Prop where
  shows : r'.shows = r.shows
  config : r'.config = r.config
  reads : r'.reads REG_AX5043_FIFODATA = r.reads REG_AX5043_FIFODATA + chunk_size r.byte
  irqrequest0 : ∃ reads : ℕ → ℕ,
    reads REG_AX5043_FIFODATA = r.reads REG_AX5043_FIFODATA + chunk_size r.byte ∧
      r'.irqrequest0 = r.shows REG_AX5043_IRQREQUEST0 reads
  ubRssi : r'.ubRssi = if chunk_cmd r.byte = AX5043_FIFOCMD_RSSI ∧ chunk_len r.byte = 1
    then (r.byte (chunk_head r.byte)).toInt8.toInt - r.config.axradio_phy_rssioffset.toInt
    else r.ubRssi
  RxLen : r'.RxLen = if chunk_cmd r.byte = AX5043_FIFOCMD_DATA ∧ chunk_len r.byte ≠ 0
    then chunk_len r.byte - 1 else r.RxLen
  RXBuff : chunk_cmd r.byte = AX5043_FIFOCMD_DATA ∧ chunk_len r.byte ≠ 0 →
    (chunk_len r.byte).toNat ≤ 65 → ∀ i < (chunk_len r.byte).toNat - 1,
      r'.RXBuff[i]? = some (r.byte (chunk_head r.byte + (1 + i)))
  others : ¬ (chunk_cmd r.byte = AX5043_FIFOCMD_DATA ∧ chunk_len r.byte ≠ 0) →
    r'.RXBuff = r.RXBuff

theorem Taken.turned {r r' : Ax5043} (h : Taken r.headed r') : Turned r r'.tested := by
  have hreads : r'.reads = (r.pop (chunk_size r.byte)).reads := by
    rw [h.reads, chunk_size, ← pop_pop]
    rfl
  have hfifo : r'.reads REG_AX5043_FIFODATA = r.reads REG_AX5043_FIFODATA + chunk_size r.byte := by
    rw [hreads, reads_pop]
  have hseen : r'.tested.reads REG_AX5043_FIFODATA = r'.reads REG_AX5043_FIFODATA := by
    simp [tested, seen, status]
  have hsame : r'.tested.shows = r'.shows ∧ r'.tested.config = r'.config ∧
      r'.tested.ubRssi = r'.ubRssi ∧ r'.tested.RxLen = r'.RxLen ∧ r'.tested.RXBuff = r'.RXBuff := by
    rw [tested, seen, if_pos (by decide)]
    exact ⟨rfl, rfl, rfl, rfl, rfl⟩
  obtain ⟨hshows, hconfig, hrssi, hlen, hbuff⟩ := hsame
  have hbyte : ∀ i, r.headed.byte i = r.byte (chunk_head r.byte + i) := byte_pop r _
  refine ⟨hshows.trans h.shows, hconfig.trans h.config, hseen.trans hfifo, ⟨r'.reads, hfifo, ?_⟩,
    ?_, hlen.trans h.RxLen, fun hdata h65 i hi => ?_, fun hdata => hbuff.trans (h.others hdata)⟩
  · show r'.shown REG_AX5043_IRQREQUEST0 = _
    rw [shown, if_pos (by decide), h.shows]
    rfl
  · rw [hrssi, h.ubRssi, hbyte]
    rfl
  · rw [hbuff, ← hbyte]
    exact h.RXBuff hdata h65 i hi

/-- **A turn takes exactly one chunk.** -/
theorem receive_turn_turned (r : Ax5043) : (receive_turn (chunk_switch skip)).Returns r (Turned r) :=
  receive_turn_headed.mpr ((chunk_switch_taken r.headed).mono fun _ h => h.turned)

/-- With the check, a turn is made if there is room for the payload. -/
theorem receive_turn_checked {r : Ax5043} {Q : Ax5043 → Prop} :
    (receive_turn receive_chunk).Returns r Q ↔
      (chunk_cmd r.byte = AX5043_FIFOCMD_DATA → (chunk_len r.byte).toNat ≤ 65) ∧
        (receive_turn (chunk_switch skip)).Returns r Q := by
  rw [receive_turn_headed, receive_turn_headed, receive_chunk_checked]
  exact Iff.rfl

end MeterTester
