import MeterTester.Receiving

/-! # A transmission reaches the FIFO: `TransmitData`

`Normal_send` leaves a packet in `TXBuff`, and the interrupts that follow are to write three chunks
to the FIFO (`chunk`): the preamble, the sync word, the packet.  `Carried` says what the interrupt
has to do: it goes on with the chunk the transmission stopped at (`Awaits`), writes the chunks there
is room for, and either is done or commits them and waits for the next interrupt.

`fifocommit:` runs on into `pktend:`, so that the first interrupt is always the last one: short of
room it ends the transmission without the rest of the frame.  And the test before the packet
compares `TxLen` in place of the free space.  `carried_iff` says for which packets and which
readings of the free space a transmission is carried out. -/

namespace MeterTester

open Interleave Interleave.Prog Ax5043

/-! ### The frame -/

section frame
variable (Buf : ℕ → UInt8) (Length : UInt8)

/-- What `TXBuff` begins with: the length and the payload. -/
def packet_bytes : List UInt8 := (Length + 1) :: (List.range Length.toNat).map Buf

/-- The chunks of a transmission: 16 bits of preamble, the sync word, the packet. -/
def chunk : ℕ → List UInt8
  | 0 => [chunk_header AX5043_FIFOCMD_REPEATDATA 3, 0x38, 2, 0x55]
  | 1 => [chunk_header AX5043_FIFOCMD_DATA 3, 0x38, 0x55, 0x5a]
  | _ => [chunk_header AX5043_FIFOCMD_DATA 7, 1 + (Length + 1), 3] ++ packet_bytes Buf Length

/-- The first `k` chunks. -/
def chunks (k : ℕ) : List UInt8 := (List.range k).flatMap (chunk Buf Length)

end frame

/-- The transmission goes on with chunk `k`; it is over when `k` is `3`. -/
def Awaits : ℕ → Ax5043 → Prop
  | 0, r => (r.ubRFState = trxstate_tx_longpreamble ∧ r.axradio_txbuffer_cnt = 0) ∨
      (r.ubRFState = trxstate_tx_shortpreamble ∧ r.axradio_txbuffer_cnt = 16)
  | 1, r => r.ubRFState = trxstate_tx_shortpreamble ∧ r.axradio_txbuffer_cnt = 0
  | 2, r => r.ubRFState = trxstate_tx_packet
  | _, r => r.ubRFState = trxstate_tx_waitdone

namespace Ax5043

/-- The state in which an interrupt calls `TransmitData`. -/
def entered (r : Ax5043) : Ax5043 :=
  if r.ubRFState = trxstate_tx_xtalwait then (tx_begin.exec 0 r).getD r else r

/-- What the chip says about its free space when `TransmitData` asks for the `i`-th time. -/
def free (r : Ax5043) (i : ℕ) : ℕ := (read_free^[i + 1] r).ubFreeCnt.toNat

end Ax5043

/-- The interrupt carries the transmission from chunk `k` to chunk `k'`: each chunk it writes has
room, and a transmission that is not over is committed. -/
def Carried (Buf : ℕ → UInt8) (Length : UInt8) (r r' : Ax5043) : Prop :=
  ∃ k k', k ≤ k' ∧ k' ≤ 3 ∧ Awaits k r.entered ∧ Awaits k' r' ∧
    r'.fifo = r.entered.fifo ++ (List.range' k (k' - k)).flatMap (chunk Buf Length) ∧
    (∀ j ∈ List.range' k (k' - k), (chunk Buf Length j).length ≤ r.entered.free (j - k)) ∧
    (k' < 3 → r'.reg REG_AX5043_FIFOSTAT = 4)

/-- The states whose interrupts call `TransmitData`. -/
def Transmits (r : Ax5043) : Prop :=
  r.ubRFState ∈ [trxstate_tx_xtalwait, trxstate_tx_longpreamble, trxstate_tx_shortpreamble,
    trxstate_tx_packet]

/-- The interrupts of a transmission. -/
def Sending : Ax5043 → Ax5043 → Prop :=
  Relation.ReflTransGen fun r r' => Transmits r ∧ Interrupt r r'

/-! ### Writes to the FIFO -/

section puts
variable (r : Ax5043) (bytes : List UInt8)

theorem puts_eq : ∃ v, r.puts bytes = { r with
    reg := fun b => if b = REG_AX5043_FIFODATA then v else r.reg b
    fifo := r.fifo ++ bytes } := by
  induction bytes generalizing r with
  | nil =>
      refine ⟨r.reg REG_AX5043_FIFODATA, ?_⟩
      have hreg : (fun b => if b = REG_AX5043_FIFODATA then r.reg REG_AX5043_FIFODATA else r.reg b) =
          r.reg := by
        funext b
        split
        · rename_i hb
          rw [hb]
        · rfl
      rw [hreg, List.append_nil]
      rfl
  | cons v bytes ih =>
      obtain ⟨w, hw⟩ := ih (r.write REG_AX5043_FIFODATA v)
      refine ⟨w, hw.trans ?_⟩
      have hreg : (fun b => if b = REG_AX5043_FIFODATA then w
          else (r.write REG_AX5043_FIFODATA v).reg b) =
          fun b => if b = REG_AX5043_FIFODATA then w else r.reg b := by
        funext b
        by_cases hb : b = REG_AX5043_FIFODATA
        · rw [if_pos hb, if_pos hb]
        · rw [if_neg hb, if_neg hb]
          exact if_neg hb
      rw [hreg]
      simp [write]

@[simp] theorem puts_fifo : (r.puts bytes).fifo = r.fifo ++ bytes := by
  obtain ⟨v, hv⟩ := puts_eq r bytes
  rw [hv]

@[simp] theorem puts_config : (r.puts bytes).config = r.config := by
  obtain ⟨v, hv⟩ := puts_eq r bytes
  rw [hv]

@[simp] theorem puts_axradio_txbuffer_cnt :
    (r.puts bytes).axradio_txbuffer_cnt = r.axradio_txbuffer_cnt := by
  obtain ⟨v, hv⟩ := puts_eq r bytes
  rw [hv]

@[simp] theorem puts_TxLen : (r.puts bytes).TxLen = r.TxLen := by
  obtain ⟨v, hv⟩ := puts_eq r bytes
  rw [hv]

@[simp] theorem puts_load (i : ℕ) : (r.puts bytes).load i = r.load i := by
  obtain ⟨v, hv⟩ := puts_eq r bytes
  rw [hv]
  rfl

@[simp] theorem puts_goto : (r.puts bytes).goto = r.goto := by
  obtain ⟨v, hv⟩ := puts_eq r bytes
  rw [hv]

@[simp] theorem puts_shows : (r.puts bytes).shows = r.shows := by
  obtain ⟨v, hv⟩ := puts_eq r bytes
  rw [hv]

@[simp] theorem puts_reads : (r.puts bytes).reads = r.reads := by
  obtain ⟨v, hv⟩ := puts_eq r bytes
  rw [hv]

@[simp] theorem puts_reg {a : ℕ} (ha : a ≠ REG_AX5043_FIFODATA) :
    (r.puts bytes).reg a = r.reg a := by
  obtain ⟨v, hv⟩ := puts_eq r bytes
  rw [hv]
  exact if_neg ha

theorem SpiWriteData_eq (pBuf : ℕ) (Length : UInt8) : SpiWriteData pBuf Length r =
    r.puts ((List.range Length.toNat).map fun i => r.load (pBuf + i)) := by
  unfold SpiWriteData
  induction List.range Length.toNat generalizing r with
  | nil => rfl
  | cons i is ih => exact ih (r.write REG_AX5043_FIFODATA (r.load (pBuf + i)))

end puts

/-! ### Readings of the free space -/

section free
variable (r : Ax5043)

theorem read_free_eq : r.read_free =
    { r with ubFreeCnt := r.read_free.ubFreeCnt, reads := r.read_free.reads } := by
  unfold read_free
  dsimp only
  split <;> rfl

/-- The readings depend on the chip only. -/
theorem read_free_congr {r e : Ax5043} (hshows : r.shows = e.shows) (hreads : r.reads = e.reads) :
    r.read_free.ubFreeCnt = e.read_free.ubFreeCnt ∧ r.read_free.reads = e.read_free.reads := by
  have h0 : REG_AX5043_FIFOFREE0 ∈ status := by decide
  have h1 : REG_AX5043_FIFOFREE1 ∈ status := by decide
  unfold read_free
  simp only [seen, shown, if_pos h0, if_pos h1, hshows, hreads]
  split <;> exact ⟨rfl, rfl⟩

theorem iterate_read_free_shows (k : ℕ) : (read_free^[k] r).shows = r.shows := by
  induction k with
  | zero => rfl
  | succ k ih => rw [Function.iterate_succ_apply', read_free_eq, ih]

end free

/-! ### The turns of `TransmitData` -/

section turns
variable {Buf : ℕ → UInt8} {Length : UInt8} {e r : Ax5043}

/-- Where a call of `TransmitData` stands that began in `e`: `k` chunks are written, and the free
space has been read `j` times. -/
structure SentChunks (Buf : ℕ → UInt8) (Length : UInt8) (e : Ax5043) (k j : ℕ) (r : Ax5043) : Prop where
  config : r.config = rf_4068_config_init
  framing : r.reg REG_AX5043_FRAMING = 0x06
  TxLen : r.TxLen = Length + 1
  load : (List.range (Length + 1).toNat).map r.load = packet_bytes Buf Length
  shows : r.shows = e.shows
  reads : r.reads = (read_free^[j] e).reads
  fifo : r.fifo = e.fifo ++ chunks Buf Length k
  goto : r.goto = .again

theorem chunks_succ (k : ℕ) :
    chunks Buf Length (k + 1) = chunks Buf Length k ++ chunk Buf Length k := by
  rw [chunks, List.range_succ, List.flatMap_append, chunks]
  simp

/-- The free space that a turn reads. -/
theorem SentChunks.ubFreeCnt {k j : ℕ} (h : SentChunks Buf Length e k j r) :
    r.read_free.ubFreeCnt.toNat = e.free j := by
  have hshows : r.shows = (read_free^[j] e).shows := h.shows.trans (iterate_read_free_shows e j).symm
  rw [free, Function.iterate_succ_apply', (read_free_congr hshows h.reads).1]

theorem SentChunks.read_free {k j : ℕ} (h : SentChunks Buf Length e k j r) :
    SentChunks Buf Length e k (j + 1) r.read_free := by
  have hshows : r.shows = (Ax5043.read_free^[j] e).shows :=
    h.shows.trans (iterate_read_free_shows e j).symm
  have hreads : r.read_free.reads = (Ax5043.read_free^[j + 1] e).reads := by
    rw [Function.iterate_succ_apply', (read_free_congr hshows h.reads).2]
  rw [read_free_eq]
  exact ⟨h.config, h.framing, h.TxLen, h.load, h.shows, hreads, h.fifo, h.goto⟩

/-- Chunk `k` is written. -/
theorem SentChunks.put {k j : ℕ} (h : SentChunks Buf Length e k j r) :
    SentChunks Buf Length e (k + 1) j (r.puts (chunk Buf Length k)) := by
  have hload : (r.puts (chunk Buf Length k)).load = r.load := funext fun i => puts_load r _ i
  refine ⟨?_, ?_, ?_, ?_, ?_, ?_, ?_, ?_⟩
  · rw [puts_config, h.config]
  · rw [puts_reg r _ (by decide), h.framing]
  · rw [puts_TxLen, h.TxLen]
  · rw [hload, h.load]
  · rw [puts_shows, h.shows]
  · rw [puts_reads, h.reads]
  · rw [puts_fifo, h.fifo, chunks_succ, List.append_assoc]
  · rw [puts_goto, h.goto]

theorem SentChunks.state {k j : ℕ} (h : SentChunks Buf Length e k j r) (s : ℕ) (cnt : UInt32) (u : UInt8) :
    SentChunks Buf Length e k j
      { r with ubRFState := s, axradio_txbuffer_cnt := cnt, ubFreeCnt := u } :=
  ⟨h.config, h.framing, h.TxLen, h.load, h.shows, h.reads, h.fifo, h.goto⟩

/-! #### One turn for each chunk -/

theorem turn_longpreamble (hstate : r.ubRFState = trxstate_tx_longpreamble) :
    r.TransmitData_turn = r.read_free.longpreamble := by
  have hs : r.read_free.ubRFState = trxstate_tx_longpreamble := by simpa using hstate
  unfold TransmitData_turn
  dsimp only
  rw [if_pos hs]

theorem turn_shortpreamble (hstate : r.ubRFState = trxstate_tx_shortpreamble) :
    r.TransmitData_turn = r.read_free.shortpreamble := by
  have hs : r.read_free.ubRFState = trxstate_tx_shortpreamble := by simpa using hstate
  unfold TransmitData_turn
  dsimp only
  rw [if_neg (by rw [hs]; decide), if_pos hs]

theorem turn_packet (hstate : r.ubRFState = trxstate_tx_packet) :
    r.TransmitData_turn = r.read_free.packet := by
  have hs : r.read_free.ubRFState = trxstate_tx_packet := by simpa using hstate
  unfold TransmitData_turn
  dsimp only
  rw [if_neg (by rw [hs]; decide), if_neg (by rw [hs]; decide), if_pos hs]

theorem shortpreamble_of_long (hconfig : r.config = rf_4068_config_init)
    (hcnt : r.axradio_txbuffer_cnt = 0) :
    r.longpreamble = { r with
      ubRFState := trxstate_tx_shortpreamble
      axradio_txbuffer_cnt := 16 }.preamble_rest := by
  unfold longpreamble shortpreamble
  rw [if_pos hcnt, hconfig]
  rfl

/-- Two bytes of preamble are left. -/
theorem preamble_rest_two (hconfig : r.config = rf_4068_config_init)
    (hcnt : r.axradio_txbuffer_cnt = 16) (hfree : ¬ r.ubFreeCnt < 4) :
    r.preamble_rest =
      { r with axradio_txbuffer_cnt := 0, ubFreeCnt := 2 }.puts (chunk Buf Length 0) := by
  have hn : (if (16 : UInt32) < 255 * 8 then ((16 : UInt32) >>> 3).toUInt8 else 255) = 2 := by decide
  unfold preamble_rest
  rw [if_neg hfree, hcnt, hn]
  dsimp only
  rw [if_pos (by decide), hconfig]
  rfl

/-- The preamble. -/
theorem SentChunks.preamble (h : SentChunks Buf Length e 0 1 r) (hcnt : r.axradio_txbuffer_cnt = 0)
    (hfree : ¬ r.ubFreeCnt < 4) :
    SentChunks Buf Length e 1 1 r.longpreamble ∧ r.longpreamble.ubRFState = trxstate_tx_shortpreamble ∧
      r.longpreamble.axradio_txbuffer_cnt = 0 := by
  have hput : r.longpreamble = { r with
      ubRFState := trxstate_tx_shortpreamble
      axradio_txbuffer_cnt := 0
      ubFreeCnt := 2 }.puts (chunk Buf Length 0) := by
    rw [shortpreamble_of_long h.config hcnt]
    exact preamble_rest_two h.config rfl hfree
  rw [hput]
  exact ⟨(h.state _ _ _).put, puts_ubRFState _ _, puts_axradio_txbuffer_cnt _ _⟩

/-- No room for the preamble. -/
theorem SentChunks.no_preamble (h : SentChunks Buf Length e 0 1 r) (hcnt : r.axradio_txbuffer_cnt = 0)
    (hfree : r.ubFreeCnt < 4) :
    r.longpreamble.goto = .fifocommit ∧ r.longpreamble.fifo = e.fifo ++ chunks Buf Length 0 := by
  rw [shortpreamble_of_long h.config hcnt, preamble_rest, if_pos hfree]
  exact ⟨rfl, h.fifo⟩

/-- The sync word. -/
theorem SentChunks.sync (h : SentChunks Buf Length e 1 2 r) (hcnt : r.axradio_txbuffer_cnt = 0)
    (hfree : ¬ r.ubFreeCnt < 15) :
    SentChunks Buf Length e 2 2 r.shortpreamble ∧ r.shortpreamble.ubRFState = trxstate_tx_packet := by
  have happend : r.append_bits = r := by
    unfold append_bits
    rw [if_neg (by rw [h.config]; decide)]
  have hread : r.shown REG_AX5043_FRAMING &&& 0x0E = 0x06 := by
    rw [shown, if_neg (by decide), h.framing]
    decide
  have hsynclen : r.config.axradio_framing_synclen ≠ 0 := by
    rw [h.config]
    decide
  have hchunk : sync_chunk r.config = chunk Buf Length 1 := by
    rw [h.config]
    exact show sync_chunk rf_4068_config_init =
      [chunk_header AX5043_FIFOCMD_DATA 3, 0x38, 0x55, 0x5a] by decide
  have hput : r.shortpreamble =
      { r.puts (chunk Buf Length 1) with ubRFState := trxstate_tx_packet } := by
    unfold shortpreamble
    rw [if_pos hcnt, if_neg hfree]
    dsimp only
    rw [happend, if_pos ⟨hread, hsynclen⟩, hchunk, seen, if_neg (by decide)]
  rw [hput]
  exact ⟨h.put.state _ _ _, rfl⟩

/-- No room for the sync word. -/
theorem SentChunks.no_sync (h : SentChunks Buf Length e 1 2 r) (hcnt : r.axradio_txbuffer_cnt = 0)
    (hfree : r.ubFreeCnt < 15) :
    r.shortpreamble.goto = .fifocommit ∧ r.shortpreamble.fifo = e.fifo ++ chunks Buf Length 1 := by
  rw [shortpreamble, if_pos hcnt, if_pos hfree]
  exact ⟨rfl, h.fifo⟩

/-- The packet. -/
theorem SentChunks.packet (h : SentChunks Buf Length e 2 3 r) (hlen : ¬ r.TxLen < 11) :
    r.packet.goto = .pktend ∧ r.packet.fifo = e.fifo ++ chunks Buf Length 3 := by
  rw [Ax5043.packet, if_neg hlen]
  refine ⟨rfl, ?_⟩
  dsimp only
  have hload : (List.range r.TxLen.toNat).map
      (fun i => (r.puts [chunk_header AX5043_FIFOCMD_DATA 7, 1 + r.TxLen, 3]).load (0 + i)) =
      packet_bytes Buf Length := by
    rw [← h.load, h.TxLen]
    apply List.map_congr_left
    intro i _
    rw [puts_load, Nat.zero_add]
  rw [SpiWriteData_eq, puts_fifo, puts_fifo, hload, h.fifo, h.TxLen, chunks_succ 2, chunk]
  · simp
  · decide
  · decide

/-- A packet that is taken to be too short. -/
theorem SentChunks.no_packet (h : SentChunks Buf Length e 2 3 r) (hlen : r.TxLen < 11) :
    r.packet.goto = .fifocommit ∧ r.packet.fifo = e.fifo ++ chunks Buf Length 2 := by
  rw [Ax5043.packet, if_pos hlen]
  exact ⟨rfl, h.fifo⟩

/-! #### The loop -/

/-- The test of the loop of `TransmitData`. -/
def goes_on (r : Ax5043) : Bool := r.goto = .again

/-- The loop of `TransmitData`. -/
def sends (n : ℕ) (r : Ax5043) : Option Ax5043 := turns goes_on (fun r => some r.TransmitData_turn) n r

/-- In `n` tests the loop ends behind some chunks, and behind all of them exactly under `C`. -/
def Stops (Buf : ℕ → UInt8) (Length : UInt8) (e : Ax5043) (C : Prop) (n : ℕ) (r : Ax5043) : Prop :=
  ∃ k ≤ 3, (k = 3 ↔ C) ∧ ∃ r', sends n r = some r' ∧
    (r'.goto = .fifocommit ∨ r'.goto = .pktend) ∧ r'.fifo = e.fifo ++ chunks Buf Length k

theorem sends_succ {n : ℕ} {f : Ax5043} (hgo : r.goto = .again) (hturn : r.TransmitData_turn = f) :
    sends (n + 1) r = sends n f :=
  turns_true (decide_eq_true hgo) (congrArg some hturn)

theorem sends_done {n : ℕ} (hgo : r.goto ≠ .again) : sends (n + 1) r = some r :=
  turns_false (decide_eq_false hgo)

/-- A turn that goes on. -/
theorem Stops.turn {C C' : Prop} {n : ℕ} {f : Ax5043} (h : Stops Buf Length e C n f)
    (hC : C' ↔ C) (hgo : r.goto = .again) (hturn : r.TransmitData_turn = f) :
    Stops Buf Length e C' (n + 1) r := by
  obtain ⟨k, hk, hiff, r', hr', hrest⟩ := h
  exact ⟨k, hk, hiff.trans hC.symm, r', (sends_succ hgo hturn).trans hr', hrest⟩

/-- A turn that finds no room. -/
theorem Stops.short {C : Prop} {k n : ℕ} {f : Ax5043} (hk : k < 3) (hC : ¬ C)
    (hf : f.goto = .fifocommit ∧ f.fifo = e.fifo ++ chunks Buf Length k) (hgo : r.goto = .again)
    (hturn : r.TransmitData_turn = f) : Stops Buf Length e C (n + 2) r := by
  refine ⟨k, hk.le, ⟨fun h => absurd h hk.ne, fun h => absurd h hC⟩, f, ?_, .inl hf.1, hf.2⟩
  rw [sends_succ hgo hturn, sends_done (by rw [hf.1]; decide)]

theorem SentChunks.room_iff {k j : ℕ} (h : SentChunks Buf Length e k j r) (m : UInt8) :
    ¬ r.read_free.ubFreeCnt < m ↔ m.toNat ≤ e.free j := by
  rw [UInt8.lt_iff_toNat_lt, h.ubFreeCnt, not_lt]

theorem read_free_axradio_txbuffer_cnt (hcnt : r.axradio_txbuffer_cnt = 0) :
    r.read_free.axradio_txbuffer_cnt = 0 := by
  rw [read_free_eq]
  exact hcnt

theorem SentChunks.stops_packet (h : SentChunks Buf Length e 2 2 r) (hstate : r.ubRFState = trxstate_tx_packet) :
    Stops Buf Length e (¬ Length + 1 < 11) 2 r := by
  have hTxLen := h.read_free.TxLen
  by_cases hlen : Length + 1 < 11
  · exact Stops.short (by decide) (fun hn => hn hlen) (h.read_free.no_packet (by rwa [hTxLen])) h.goto
      (turn_packet hstate)
  · obtain ⟨hgoto, hfifo⟩ := h.read_free.packet (by rwa [hTxLen])
    refine ⟨3, le_rfl, ⟨fun _ => hlen, fun _ => rfl⟩, _, ?_, .inr hgoto, hfifo⟩
    rw [sends_succ h.goto (turn_packet hstate), sends_done (by rw [hgoto]; decide)]

theorem SentChunks.stops_sync (h : SentChunks Buf Length e 1 1 r)
    (hstate : r.ubRFState = trxstate_tx_shortpreamble) (hcnt : r.axradio_txbuffer_cnt = 0) :
    Stops Buf Length e (15 ≤ e.free 1 ∧ ¬ Length + 1 < 11) 3 r := by
  have hcnt' := read_free_axradio_txbuffer_cnt hcnt
  have hroom : ¬ r.read_free.ubFreeCnt < 15 ↔ 15 ≤ e.free 1 := h.room_iff 15
  by_cases hfree : r.read_free.ubFreeCnt < 15
  · exact Stops.short (by decide) (fun hC => hroom.mpr hC.1 hfree) (h.read_free.no_sync hcnt' hfree)
      h.goto (turn_shortpreamble hstate)
  · obtain ⟨hnext, hpacket⟩ := h.read_free.sync hcnt' hfree
    exact (hnext.stops_packet hpacket).turn (and_iff_right (hroom.mp hfree)) h.goto
      (turn_shortpreamble hstate)

/-- **The loop ends behind at most three chunks**, and behind all of them exactly when there is
room for the first two and the packet is not too short. -/
theorem SentChunks.stops (h : SentChunks Buf Length e 0 0 r) (hstate : r.ubRFState = trxstate_tx_longpreamble)
    (hcnt : r.axradio_txbuffer_cnt = 0) :
    Stops Buf Length e (4 ≤ e.free 0 ∧ 15 ≤ e.free 1 ∧ ¬ Length + 1 < 11) 4 r := by
  have hcnt' := read_free_axradio_txbuffer_cnt hcnt
  have hroom : ¬ r.read_free.ubFreeCnt < 4 ↔ 4 ≤ e.free 0 := h.room_iff 4
  by_cases hfree : r.read_free.ubFreeCnt < 4
  · exact Stops.short (by decide) (fun hC => hroom.mpr hC.1 hfree)
      (h.read_free.no_preamble hcnt' hfree) h.goto (turn_longpreamble hstate)
  · obtain ⟨hnext, hshort, hcnt₁⟩ := h.read_free.preamble hcnt' hfree
    exact (hnext.stops_sync hshort hcnt₁).turn (and_iff_right (hroom.mp hfree)) h.goto
      (turn_longpreamble hstate)

end turns

/-! ### The packet in `TXBuff` -/

section packet
variable {Buf : ℕ → UInt8} {Length : UInt8} {r : Ax5043}

/-- `TXBuff` with one byte stored. -/
theorem store_TXBuff {i : ℕ} (hi : i < 64) (r : Ax5043) (v : UInt8) :
    r.store i v = { r with TXBuff := r.TXBuff.setIfInBounds i v } := by
  rw [store, if_pos hi]

theorem load_TXBuff {i : ℕ} (hi : i < 64) (r : Ax5043) : r.load i = r.TXBuff.toList.getD i 0 := by
  rw [load, if_pos hi]

theorem getD_setIfInBounds (b : Vector UInt8 64) {i j : ℕ} (hi : i < 64) (v : UInt8) :
    (b.setIfInBounds i v).toList.getD j 0 = if i = j then v else b.toList.getD j 0 := by
  rw [Vector.toList_setIfInBounds, List.getD_eq_getElem?_getD, List.getElem?_set,
    List.getD_eq_getElem?_getD]
  by_cases hij : i = j
  · rw [if_pos hij, if_pos (by simpa using hi), if_pos hij]
    rfl
  · rw [if_neg hij, if_neg hij]

/-- `memcpy` behind the first byte. -/
theorem copy_eq (Buf : ℕ → UInt8) (r : Ax5043) (n : ℕ) (hn : n ≤ 63) : ∃ b : Vector UInt8 64,
    (List.range n).foldl (fun r i => r.store (1 + i) (Buf i)) r = { r with TXBuff := b } ∧
      b.toList.getD 0 0 = r.TXBuff.toList.getD 0 0 ∧ ∀ i < n, b.toList.getD (i + 1) 0 = Buf i := by
  induction n with
  | zero => exact ⟨r.TXBuff, rfl, rfl, fun i hi => by cases hi⟩
  | succ n ih =>
      obtain ⟨b, hb, hhead, htail⟩ := ih (by omega)
      have hstored := fun j => getD_setIfInBounds b (j := j) (show 1 + n < 64 by omega) (Buf n)
      refine ⟨b.setIfInBounds (1 + n) (Buf n), ?_, ?_, fun i hi => ?_⟩
      · rw [List.range_succ, List.foldl_append, hb, List.foldl_cons, List.foldl_nil,
          store_TXBuff (by omega)]
      · rw [hstored, if_neg (by omega), hhead]
      · rw [hstored]
        by_cases hin : i = n
        · rw [if_pos (by omega), hin]
        · rw [if_neg (by omega), htail i (by omega)]

/-- A packet is ready to be sent. -/
structure PacketReady (Buf : ℕ → UInt8) (Length : UInt8) (r : Ax5043) : Prop where
  config : r.config = rf_4068_config_init
  cnt : r.axradio_txbuffer_cnt = 0
  TxLen : r.TxLen = Length + 1
  load : (List.range (Length + 1).toNat).map r.load = packet_bytes Buf Length

theorem PacketReady.write (h : PacketReady Buf Length r) (a : ℕ) (v : UInt8) : PacketReady Buf Length (r.write a v) :=
  ⟨h.config, h.cnt, h.TxLen, h.load⟩

theorem PacketReady.seen (h : PacketReady Buf Length r) (a : ℕ) : PacketReady Buf Length (r.seen a) := by
  unfold Ax5043.seen
  split
  · exact ⟨h.config, h.cnt, h.TxLen, h.load⟩
  · exact h

theorem PacketReady.copied {b : Vector UInt8 64} (hlen : Length ≤ 63)
    (hconfig : r.config = rf_4068_config_init) (hcnt : r.axradio_txbuffer_cnt = 0)
    (hTxLen : r.TxLen = Length + 1) (hhead : b.toList.getD 0 0 = Length + 1)
    (htail : ∀ i < Length.toNat, b.toList.getD (i + 1) 0 = Buf i) :
    PacketReady Buf Length { r with TXBuff := b } := by
  refine ⟨hconfig, hcnt, hTxLen, ?_⟩
  have hle : Length.toNat ≤ 63 := UInt8.le_iff_toNat_le.mp hlen
  have hsucc : (Length + 1).toNat = Length.toNat + 1 := by
    rw [UInt8.toNat_add]
    exact Nat.mod_eq_of_lt (by simp; omega)
  rw [hsucc, List.range_succ_eq_map, List.map_cons, List.map_map, packet_bytes]
  refine congrArg₂ List.cons ?_ ?_
  · rw [load_TXBuff (by decide), hhead]
  · apply List.map_congr_left
    intro i hi
    have hi' := List.mem_range.mp hi
    rw [Function.comp_apply, load_TXBuff (by omega), htail i hi']

/-- The state and the counter of the preamble are left alone. -/
def Untouched (r : Ax5043) : Prop :=
  r.config = rf_4068_config_init ∧ r.axradio_txbuffer_cnt = 0

theorem SetRegisters_TX_untouched : Ax5043SetRegisters_TX.Keeps Untouched := by
  have hseen : ∀ (r : Ax5043) (a : ℕ), Untouched r → Untouched (r.seen a) := by
    intro r a hr
    unfold seen
    split
    · exact hr
    · exact hr
  refine ⟨⟨?_, ⟨?_, ?_, trivial⟩, trivial⟩, ⟨⟨?_, ?_, trivial⟩, trivial⟩, trivial⟩
  · exact fun r hr => hr
  · exact fun r hr => hr
  · exact fun r hr => hr
  · intro r hr
    dsimp only
    split
    · exact hseen r _ hr
    · exact hseen r _ hr
  · intro r hr
    dsimp only
    split
    · exact hseen r _ hr
    · exact hseen r _ hr

/-- **`Normal_send` leaves the packet ready**, and the interrupt of the crystal to be awaited. -/
theorem send_ready {n : ℕ} (hlen : Length ≤ 63) :
    Ends n (fun r => r.config = rf_4068_config_init) (Normal_send Buf Length).unchecked
      fun r => PacketReady Buf Length r ∧ r.ubRFState = trxstate_tx_xtalwait := by
  rw [Normal_send, unchecked_block]
  refine .block_cons (R := Untouched) (.act fun r hr => ⟨hr, rfl⟩) (.block_last ?_)
  rw [transmit_packet_task, unchecked_block]
  refine Ends.block_drop 3 (R := Untouched) (.of_keeps ?_) ?_
  · exact ⟨fun r hr => hr, fun r hr => hr, SetRegisters_TX_untouched.unchecked, trivial⟩
  refine .block_cons (R := fun r => Untouched r ∧ r.TxLen = Length) (.act fun r hr => ⟨hr, rfl⟩) ?_
  refine .block_cons (R := fun r => Untouched r ∧ r.TxLen = Length + 1)
    (.act fun r hr => ⟨hr.1, congrArg (· + 1) hr.2⟩) ?_
  refine .block_cons (R := fun r => (Untouched r ∧ r.TxLen = Length + 1) ∧
    r.TXBuff.toList.getD 0 0 = Length + 1) (.act fun r hr => ?_) ?_
  · rw [store_TXBuff (by decide)]
    refine ⟨hr, ?_⟩
    dsimp only
    rw [getD_setIfInBounds _ (by decide), if_pos rfl, hr.2]
  refine .block_cons (R := PacketReady Buf Length) (.act fun r hr => ?_) ?_
  · obtain ⟨b, hb, hhead, htail⟩ := copy_eq Buf r Length.toNat (UInt8.le_iff_toNat_le.mp hlen)
    rw [hb]
    exact .copied hlen hr.1.1.1 hr.1.1.2 hr.1.2 (hhead.trans hr.2) htail
  refine Ends.block_drop 2 (R := PacketReady Buf Length) (.of_keeps ?_) ?_
  · exact ⟨fun r hr => hr.write _ _, fun r hr => hr.write _ _, trivial⟩
  refine .block_cons (R := fun r => PacketReady Buf Length r ∧ r.ubRFState = trxstate_tx_xtalwait)
    (.act fun r hr => ⟨⟨hr.config, hr.cnt, hr.TxLen, hr.load⟩, rfl⟩) (.of_keeps ?_)
  exact ⟨fun r hr => ⟨hr.1.write _ _, hr.2⟩, fun r hr => ⟨hr.1.write _ _, hr.2⟩,
    fun r hr => ⟨hr.1.seen _, (seen_ubRFState r _).trans hr.2⟩, trivial⟩

end packet

/-! ### The first interrupt -/

section interrupt
variable {Buf : ℕ → UInt8} {Length : UInt8} {r r' : Ax5043}

theorem fifocommit_ends {n : ℕ} (fifo : List UInt8) :
    Ends n (fun r => r.goto ≠ .out ∧ r.fifo = fifo) fifocommit.unchecked fun r =>
      r.ubRFState = trxstate_tx_waitdone ∧ r.fifo = fifo := by
  rw [fifocommit, unchecked_block]
  refine .block_cons (Ends.cond_keeps (.act fun r hr => hr)) (.block_last (.cond ?_ fun r hr hc => ?_))
  · rw [unchecked_block]
    refine Ends.block_drop 1 (R := fun r => r.fifo = fifo) ?_ ?_
    · exact .block_last (.act fun r hr => hr.1.2)
    · refine .block_cons (R := fun r => r.ubRFState = trxstate_tx_waitdone ∧ r.fifo = fifo)
        (.act fun r hr => ⟨rfl, hr⟩) (.of_keeps ?_)
      exact ⟨fun r hr => hr, fun r hr => hr, trivial⟩
  · exact absurd hr.1 (of_decide_eq_false hc)

/-- Behind the loop the transmission is taken to be over. -/
theorem fifocommit_exec {n : ℕ} (hgoto : r.goto = .fifocommit ∨ r.goto = .pktend) :
    ∃ r', fifocommit.unchecked.exec n r = some r' ∧ r'.ubRFState = trxstate_tx_waitdone ∧
      r'.fifo = r.fifo := by
  have hout : r.goto ≠ .out := by
    rcases hgoto with h | h <;> rw [h] <;> decide
  have hstraight : fifocommit.unchecked.Straight :=
    ⟨⟨trivial, trivial⟩, ⟨⟨trivial, trivial, trivial, trivial, trivial⟩, trivial⟩, trivial⟩
  obtain ⟨r', hr'⟩ := hstraight.ends n r
  exact ⟨r', hr', fifocommit_ends r.fifo r r' ⟨hout, rfl⟩ hr'⟩

theorem TransmitData_exec {e : Ax5043} {C : Prop}
    (h : Stops Buf Length e C 4 { e with goto := .again }) :
    ∃ k ≤ 3, (k = 3 ↔ C) ∧ ∃ r', TransmitData.unchecked.exec 4 e = some r' ∧
      r'.ubRFState = trxstate_tx_waitdone ∧ r'.fifo = e.fifo ++ chunks Buf Length k := by
  obtain ⟨k, hk, hiff, r, hloop, hgoto, hfifo⟩ := h
  obtain ⟨r', hr', hstate, hfifo'⟩ := fifocommit_exec (n := 4) hgoto
  refine ⟨k, hk, hiff, r', ?_, hstate, hfifo'.trans hfifo⟩
  have hexec : TransmitData.unchecked.exec 4 e =
      (sends 4 { e with goto := .again }).bind fun r =>
        (fifocommit.unchecked.exec 4 r).bind some := rfl
  rw [hexec, hloop, Option.bind_some, hr', Option.bind_some]

/-- A packet is ready, and the chip sends the sync word by itself. -/
def Framed (Buf : ℕ → UInt8) (Length : UInt8) (r : Ax5043) : Prop :=
  PacketReady Buf Length r ∧ r.reg REG_AX5043_FRAMING = 0x06

theorem Framed.seen (h : Framed Buf Length r) (a : ℕ) : Framed Buf Length (r.seen a) := by
  refine ⟨h.1.seen a, ?_⟩
  unfold Ax5043.seen
  split
  · exact h.2
  · exact h.2

theorem Framed.write (h : Framed Buf Length r) {a : ℕ} (ha : a ≠ REG_AX5043_FRAMING) (v : UInt8) :
    Framed Buf Length (r.write a v) :=
  ⟨h.1.write a v, (if_neg ha.symm).trans h.2⟩

theorem Framed.puts (h : Framed Buf Length r) (bytes : List UInt8) :
    Framed Buf Length (r.puts bytes) := by
  have hload : (r.puts bytes).load = r.load := funext fun i => puts_load r bytes i
  refine ⟨⟨?_, ?_, ?_, ?_⟩, ?_⟩
  · rw [puts_config, h.1.config]
  · rw [puts_axradio_txbuffer_cnt, h.1.cnt]
  · rw [puts_TxLen, h.1.TxLen]
  · rw [hload, h.1.load]
  · rw [puts_reg r bytes (by decide), h.2]

/-- The state in which the first call of `TransmitData` begins. -/
theorem tx_begin_ends {n : ℕ} : Ends n (Framed Buf Length) tx_begin fun r =>
    Framed Buf Length r ∧ r.ubRFState = trxstate_tx_longpreamble := by
  refine Ends.block_drop 4 (R := Framed Buf Length) (.of_keeps ?_) ?_
  · exact ⟨fun r hr => hr.seen _, fun r hr => hr.write (by decide) _,
      fun r hr => hr.write (by decide) _, fun r hr => hr.write (by decide) _, trivial⟩
  refine .block_cons (R := fun r => Framed Buf Length r ∧ r.ubRFState = trxstate_tx_longpreamble)
    (.act fun r hr => ?_) (.block_last (.act fun r hr => ?_))
  · exact ⟨⟨⟨hr.1.config, hr.1.cnt, hr.1.TxLen, hr.1.load⟩, hr.2⟩, rfl⟩
  · have hseen := hr.1.seen (REG_AX5043_MODULATION % 0x80)
    have hstate := (seen_ubRFState r (REG_AX5043_MODULATION % 0x80)).trans hr.2
    dsimp only
    split
    · exact ⟨hseen.puts _, (puts_ubRFState _ _).trans hstate⟩
    · exact ⟨hseen, hstate⟩

theorem entered_exec {n : ℕ} (hstate : r.ubRFState = trxstate_tx_xtalwait) :
    tx_begin.exec n r = some r.entered := by
  have hstraight : tx_begin.Straight := ⟨trivial, trivial, trivial, trivial, trivial, trivial, trivial⟩
  obtain ⟨r', hr'⟩ := hstraight.ends 0 r
  rw [entered, if_pos hstate, hr']
  exact exec_mono (Nat.zero_le n) hr'

theorem entered_framed (h : Framed Buf Length r) (hstate : r.ubRFState = trxstate_tx_xtalwait) :
    Framed Buf Length r.entered ∧ r.entered.ubRFState = trxstate_tx_longpreamble :=
  tx_begin_ends (n := 0) r r.entered h (entered_exec hstate)

theorem Framed.sent (h : Framed Buf Length r) :
    SentChunks Buf Length r 0 0 { r with goto := .again } :=
  ⟨h.1.config, h.2, h.1.TxLen, h.1.load, rfl, rfl, (List.append_nil _).symm, rfl⟩

/-- **The first interrupt ends the transmission** behind at most three chunks. -/
theorem interrupt_sends (h : Framed Buf Length r) (hstate : r.ubRFState = trxstate_tx_xtalwait) :
    ∃ k ≤ 3, (k = 3 ↔ 4 ≤ r.entered.free 0 ∧ 15 ≤ r.entered.free 1 ∧ ¬ Length + 1 < 11) ∧
      ∃ r', Interrupt r r' ∧ r'.ubRFState = trxstate_tx_waitdone ∧
        r'.fifo = r.entered.fifo ++ chunks Buf Length k := by
  have hbegin : tx_begin.exec 4 r = some r.entered := entered_exec hstate
  obtain ⟨hframed, hlong⟩ := entered_framed h hstate
  have hstops := hframed.sent.stops hlong hframed.1.cnt
  obtain ⟨k, hk, hiff, r', hr', hdone, hfifo⟩ := TransmitData_exec hstops
  refine ⟨k, hk, hiff, r'.write REG_AX5043_PWRMODE AX5043_PWRSTATE_FULL_TX, ⟨4, ?_⟩, hdone, hfifo⟩
  have hcase : rf_4068_task_callback.unchecked.exec 4 r = (tx_begin.exec 4 r).bind fun r =>
      (TransmitData.unchecked.exec 4 r).bind fun r =>
        some (r.write REG_AX5043_PWRMODE AX5043_PWRSTATE_FULL_TX) := by
    rw [rf_4068_task_callback, exec_unchecked_switch_default, hstate]
    rfl
  rw [hcase, hbegin, Option.bind_some, hr', Option.bind_some]

end interrupt

/-! ### Transmissions that are carried out -/

section carried
variable {Buf : ℕ → UInt8} {Length : UInt8} {r r' : Ax5043}

theorem chunk_lengths (Buf : ℕ → UInt8) (Length : UInt8) :
    (chunk Buf Length 0).length = 4 ∧ (chunk Buf Length 1).length = 4 ∧
      (chunk Buf Length 2).length = Length.toNat + 4 := by
  refine ⟨rfl, rfl, ?_⟩
  simp [chunk, packet_bytes]

theorem chunk_length_pos (Buf : ℕ → UInt8) (Length : UInt8) : ∀ k, 0 < (chunk Buf Length k).length
  | 0 => by simp [chunk]
  | 1 => by simp [chunk]
  | _ + 2 => by simp [chunk]

/-- Fewer chunks are fewer bytes. -/
theorem chunks_injective : Function.Injective (chunks Buf Length) := by
  have hmono : StrictMono fun k => (chunks Buf Length k).length := by
    apply strictMono_nat_of_lt_succ
    intro k
    have hpos := chunk_length_pos Buf Length k
    rw [chunks_succ, List.length_append]
    omega
  exact fun k k' h => hmono.injective (congrArg List.length h)

/-- The chunk a transmission stands at. -/
def stage (r : Ax5043) : ℕ :=
  if r.ubRFState = trxstate_tx_longpreamble then 0
  else if r.ubRFState = trxstate_tx_shortpreamble then if r.axradio_txbuffer_cnt = 0 then 1 else 0
  else if r.ubRFState = trxstate_tx_packet then 2
  else 3

theorem Awaits.stage_eq : ∀ {k : ℕ}, k ≤ 3 → Awaits k r → stage r = k
  | 0, _, .inl h => by rw [stage, if_pos h.1]
  | 0, _, .inr h => by
      rw [stage, if_neg (by rw [h.1]; decide), if_pos h.1, if_neg (by rw [h.2]; decide)]
  | 1, _, h => by rw [stage, if_neg (by rw [h.1]; decide), if_pos h.1, if_pos h.2]
  | 2, _, h => by
      have hstate : r.ubRFState = trxstate_tx_packet := h
      rw [stage, if_neg (by rw [hstate]; decide), if_neg (by rw [hstate]; decide), if_pos hstate]
  | 3, _, h => by
      have hstate : r.ubRFState = trxstate_tx_waitdone := h
      rw [stage, hstate]
      rfl

theorem chunks_append {k k' : ℕ} (h : k ≤ k') :
    chunks Buf Length k ++ (List.range' k (k' - k)).flatMap (chunk Buf Length) =
      chunks Buf Length k' := by
  rw [chunks, chunks, ← List.flatMap_append, List.range_eq_range', List.range_eq_range']
  have happend := List.range'_append_1 (s := 0) (m := k) (n := k' - k)
  rw [Nat.zero_add] at happend
  rw [happend, Nat.add_sub_cancel' h]

theorem Awaits.entered_eq {k : ℕ} (hk : k ≤ 3) (h : Awaits k r) : r.entered = r := by
  have hstate : r.ubRFState ≠ trxstate_tx_xtalwait := by
    match k, h with
    | 0, .inl h => rw [h.1]; decide
    | 0, .inr h => rw [h.1]; decide
    | 1, h => rw [h.1]; decide
    | 2, h => rw [show r.ubRFState = trxstate_tx_packet from h]; decide
    | 3, h => rw [show r.ubRFState = trxstate_tx_waitdone from h]; decide
  rw [entered, if_neg hstate]

/-- **What the interrupts are for**: when each carries the transmission on, the FIFO has received
the first `k` chunks, in order and once, where the transmission awaits chunk `k`. -/
theorem carried_run {r₀ : Ax5043} (hstart : Awaits 0 r₀.entered)
    (hcarried : ∀ r₁ r₂, Sending r₀ r₁ → Transmits r₁ → Interrupt r₁ r₂ → Carried Buf Length r₁ r₂)
    (h : Sending r₀ r) :
    r = r₀ ∨ ∃ k ≤ 3, Awaits k r ∧ r.fifo = r₀.entered.fifo ++ chunks Buf Length k := by
  induction h with
  | refl => exact .inl rfl
  | tail hs hstep ih =>
      obtain ⟨k, k', hkk, hle, hk, hk', hfifo, -⟩ := hcarried _ _ hs hstep.1 hstep.2
      refine .inr ⟨k', hle, hk', hfifo.trans ?_⟩
      rcases ih with rfl | ⟨j, hj, hawaits, hsent⟩
      · obtain rfl : 0 = k := (hstart.stage_eq (by decide)).symm.trans (hk.stage_eq (hkk.trans hle))
        rw [← chunks_append hkk]
        rfl
      · rw [hawaits.entered_eq hj] at hk ⊢
        obtain rfl : j = k := (hawaits.stage_eq hj).symm.trans (hk.stage_eq (hkk.trans hle))
        rw [hsent, List.append_assoc, chunks_append hkk]

/-- What a first interrupt that ends the transmission must have done. -/
theorem carried_first_iff (hstate : r.entered.ubRFState = trxstate_tx_longpreamble)
    (hcnt : r.entered.axradio_txbuffer_cnt = 0) (hdone : r'.ubRFState = trxstate_tx_waitdone) :
    Carried Buf Length r r' ↔ r'.fifo = r.entered.fifo ++ chunks Buf Length 3 ∧
      4 ≤ r.entered.free 0 ∧ 4 ≤ r.entered.free 1 ∧ Length.toNat + 4 ≤ r.entered.free 2 := by
  obtain ⟨h0, h1, h2⟩ := chunk_lengths Buf Length
  constructor
  · rintro ⟨k, k', hkk, hle, hk, hk', hfifo, hroom, -⟩
    obtain rfl : 0 = k := (Awaits.stage_eq (k := 0) (by decide) (.inl ⟨hstate, hcnt⟩)).symm.trans
      (hk.stage_eq (hkk.trans hle))
    obtain rfl : 3 = k' := (Awaits.stage_eq (k := 3) le_rfl hdone).symm.trans (hk'.stage_eq hle)
    refine ⟨hfifo.trans ?_, ?_, ?_, ?_⟩
    · rw [chunks, List.range_eq_range']
    · exact h0 ▸ hroom 0 (by decide)
    · exact h1 ▸ hroom 1 (by decide)
    · exact h2 ▸ hroom 2 (by decide)
  · rintro ⟨hfifo, hroom0, hroom1, hroom2⟩
    refine ⟨0, 3, by decide, le_rfl, .inl ⟨hstate, hcnt⟩, hdone, ?_, ?_, ?_⟩
    · rw [hfifo, chunks, List.range_eq_range']
    · intro j hj
      have hj3 : j < 3 := by simpa using hj
      interval_cases j
      · rwa [h0]
      · rwa [h1]
      · rwa [h2]
    · exact fun h => absurd h (by decide)

end carried

theorem Interrupt.unique {r r₁ r₂ : Ax5043} (h₁ : Interrupt r r₁) (h₂ : Interrupt r r₂) : r₁ = r₂ := by
  obtain ⟨n, h₁⟩ := h₁
  obtain ⟨m, h₂⟩ := h₂
  exact exec_unique h₁ h₂

theorem not_transmits {r : Ax5043} (hdone : r.ubRFState = trxstate_tx_waitdone) : ¬ Transmits r := by
  rw [Transmits, hdone]
  decide

/-- Where the first interrupt ends the transmission, it is the only one. -/
theorem sending_first {r₀ r₁ : Ax5043} (hint : Interrupt r₀ r₁)
    (hdone : r₁.ubRFState = trxstate_tx_waitdone) {r : Ax5043} (h : Sending r₀ r) :
    r = r₀ ∨ r = r₁ := by
  induction h with
  | refl => exact .inl rfl
  | tail _ hstep ih =>
      obtain ⟨htrans, hnext⟩ := hstep
      rcases ih with rfl | rfl
      · exact .inr (hnext.unique hint)
      · exact absurd htrans (not_transmits hdone)

theorem ten_bytes_iff {Length : UInt8} (hlen : Length ≤ 63) : ¬ Length + 1 < 11 ↔ 10 ≤ Length := by
  have hle : Length.toNat ≤ 63 := UInt8.le_iff_toNat_le.mp hlen
  rw [UInt8.lt_iff_toNat_lt, UInt8.le_iff_toNat_le, UInt8.toNat_add]
  simp
  omega

/-- **A transmission is carried out exactly when** its packet has ten bytes or more and the chip
has room for each chunk, for the sync word the room of fifteen bytes; otherwise the first interrupt
ends it without the rest of the frame, or writes the packet where it has no room. -/
theorem carried_iff {Buf : ℕ → UInt8} {Length : UInt8} {r r₀ : Ax5043}
    (hconfig : r.config = rf_4068_config_init) (hlen : Length ≤ 63)
    (hsend : Handles (.send Buf Length) r r₀) (hframing : r₀.reg REG_AX5043_FRAMING = 0x06) :
    (∃ r₁, Interrupt r₀ r₁) ∧
      ((∀ r₁ r₂, Sending r₀ r₁ → Transmits r₁ → Interrupt r₁ r₂ → Carried Buf Length r₁ r₂) ↔
        10 ≤ Length ∧ 4 ≤ r₀.entered.free 0 ∧ 15 ≤ r₀.entered.free 1 ∧
          Length.toNat + 4 ≤ r₀.entered.free 2) := by
  obtain ⟨n, hsend⟩ := hsend
  obtain ⟨hready, hstate⟩ := send_ready hlen r r₀ hconfig hsend
  obtain ⟨k, hk, hiff, r₁, hint, hdone, hfifo⟩ := interrupt_sends ⟨hready, hframing⟩ hstate
  have hall : (∀ r₂ r₃, Sending r₀ r₂ → Transmits r₂ → Interrupt r₂ r₃ →
      Carried Buf Length r₂ r₃) ↔ Carried Buf Length r₀ r₁ := by
    constructor
    · intro h
      exact h r₀ r₁ .refl (by rw [Transmits, hstate]; decide) hint
    · intro h r₂ r₃ hs htrans hnext
      obtain rfl | rfl := sending_first hint hdone hs
      · rwa [hnext.unique hint]
      · exact absurd htrans (not_transmits hdone)
  obtain ⟨hframed, hlong⟩ := entered_framed ⟨hready, hframing⟩ hstate
  refine ⟨⟨r₁, hint⟩, hall.trans ((carried_first_iff hlong hframed.1.cnt hdone).trans ?_)⟩
  rw [hfifo, List.append_cancel_left_eq, chunks_injective.eq_iff, hiff, ten_bytes_iff hlen]
  constructor
  · rintro ⟨⟨h0, h1, hlen⟩, -, -, h2⟩
    exact ⟨hlen, h0, h1, h2⟩
  · rintro ⟨hlen, h0, h1, h2⟩
    exact ⟨⟨h0, h1, hlen⟩, h0, by omega, h2⟩

/-- A packet of fourteen bytes, and a chip that always has room. -/
theorem carried_iff_fourteen : ∃ r₀, (∃ r₁, Interrupt r₀ r₁) ∧
    ∀ r₁ r₂, Sending r₀ r₁ → Transmits r₁ → Interrupt r₁ r₂ → Carried (fun _ => 0x31) 14 r₁ r₂ := by
  have h : (initial ready_chip).any (fun r => r.config = rf_4068_config_init ∧
      ((RadioEvent.send (fun _ => 0x31) 14).handler.unchecked.exec 200 r).any fun r₀ =>
        r₀.reg REG_AX5043_FRAMING = 0x06 ∧ 4 ≤ r₀.entered.free 0 ∧ 15 ≤ r₀.entered.free 1 ∧
          (14 : UInt8).toNat + 4 ≤ r₀.entered.free 2) = true := by decide +kernel
  obtain ⟨r, -, h⟩ := (Option.any_eq_true _ _).mp h
  obtain ⟨hconfig, h⟩ := of_decide_eq_true h
  obtain ⟨r₀, hr₀, h⟩ := (Option.any_eq_true _ _).mp h
  obtain ⟨hframing, hroom⟩ := of_decide_eq_true h
  have hiff := carried_iff hconfig (by decide) ⟨200, hr₀⟩ hframing
  exact ⟨r₀, hiff.1, hiff.2.mpr ⟨by decide, hroom⟩⟩

/-- **A packet of five bytes is not sent**, however much room there is. -/
theorem not_carried_five : ¬ ∀ (Buf : ℕ → UInt8) (Length : UInt8) (r r₀ : Ax5043),
    r.config = rf_4068_config_init → Length ≤ 63 → Handles (.send Buf Length) r r₀ →
    r₀.reg REG_AX5043_FRAMING = 0x06 → ∀ r₁ r₂, Sending r₀ r₁ → Transmits r₁ → Interrupt r₁ r₂ →
      Carried Buf Length r₁ r₂ := by
  have h : (initial ready_chip).any (fun r => r.config = rf_4068_config_init ∧
      ((RadioEvent.send (fun _ => 0x31) 5).handler.unchecked.exec 200 r).any fun r₀ =>
        (r₀.reg REG_AX5043_FRAMING = 0x06 ∧ r₀.ubRFState = trxstate_tx_xtalwait ∧
          r₀.entered.ubRFState = trxstate_tx_longpreamble ∧
          r₀.entered.axradio_txbuffer_cnt = 0) ∧
        (rf_4068_task_callback.unchecked.exec 200 r₀).any fun r₁ =>
          r₁.ubRFState = trxstate_tx_waitdone ∧
            r₁.fifo ≠ r₀.entered.fifo ++ chunks (fun _ => 0x31) 5 3) = true := by decide +kernel
  obtain ⟨r, -, h⟩ := (Option.any_eq_true _ _).mp h
  obtain ⟨hconfig, h⟩ := of_decide_eq_true h
  obtain ⟨r₀, hr₀, h⟩ := (Option.any_eq_true _ _).mp h
  obtain ⟨⟨hframing, hstate, hlong, hcnt⟩, h⟩ := of_decide_eq_true h
  obtain ⟨r₁, hr₁, h⟩ := (Option.any_eq_true _ _).mp h
  obtain ⟨hdone, hfifo⟩ := of_decide_eq_true h
  intro hall
  have hcarried := hall _ 5 r r₀ hconfig (by decide) ⟨200, hr₀⟩ hframing r₀ r₁ .refl
    (by rw [Transmits, hstate]; decide) ⟨200, hr₁⟩
  exact hfifo ((carried_first_iff hlong hcnt hdone).mp hcarried).1

end MeterTester
