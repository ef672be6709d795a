import MeterTester.Chunks

/-! # What `ReceiveData` makes of a FIFO

The FIFO as a list of bytes: a reading of `FIFODATA` takes one, and bit `0` of `IRQREQUEST0` is set
while there are some (`Filled`).  Over well-formed chunks `ReceiveData` takes them all, and leaves
the signal strength of the last `RSSI` chunk and the packet of the last `DATA` chunk
(`receive_chunks`).

The FIFO as a stream of readings of which `size` count (`Streams`): whatever they are, `ReceiveData`
ends, and the packet fits into `RXBuff` exactly if no `DATA` chunk that begins in the FIFO has more
than 64 bytes behind its flag byte (`receive_fits_iff`). -/

namespace MeterTester

open Interleave Interleave.Prog Ax5043

/-! ### Chunks -/

/-- A well-formed chunk; `long` when its length is in a byte of its own. -/
structure Chunk where
  cmd : UInt8
  long : Bool
  payload : List UInt8
  cmd_lt : cmd.toNat < 32
  room : payload.length ≤ if long then 255 else 6

namespace Chunk

/-- The length of the payload in a byte. -/
def len (c : Chunk) : UInt8 := UInt8.ofNat c.payload.length

def bytes (c : Chunk) : List UInt8 :=
  if c.long then chunk_header c.cmd 7 :: c.len :: c.payload
  else chunk_header c.cmd c.len :: c.payload

/-- A packet: a flag byte and what follows. -/
def IsData (c : Chunk) : Prop := c.cmd = AX5043_FIFOCMD_DATA ∧ c.len ≠ 0

/-- A signal strength. -/
def IsRssi (c : Chunk) : Prop := c.cmd = AX5043_FIFOCMD_RSSI ∧ c.len = 1

instance : DecidablePred IsData := fun _ => inferInstanceAs (Decidable (_ ∧ _))

instance : DecidablePred IsRssi := fun _ => inferInstanceAs (Decidable (_ ∧ _))

variable (c : Chunk)

theorem len_toNat : c.len.toNat = c.payload.length := by
  have := c.room
  apply UInt8.toNat_ofNat_of_lt'
  split_ifs at this <;> exact Nat.lt_of_le_of_lt this (by decide)

theorem header_fields : ∀ (cmd : Fin 32) (len : Fin 8),
    chunk_header (UInt8.ofNat cmd) (UInt8.ofNat len) &&& 0x1F = UInt8.ofNat cmd ∧
      (chunk_header (UInt8.ofNat cmd) (UInt8.ofNat len) &&& 0xE0) >>> (5 : UInt8) =
        UInt8.ofNat len := by
  decide

theorem header {l : UInt8} (hl : l.toNat < 8) : chunk_header c.cmd l &&& 0x1F = c.cmd ∧
    (chunk_header c.cmd l &&& 0xE0) >>> (5 : UInt8) = l := by
  have h := header_fields ⟨c.cmd.toNat, c.cmd_lt⟩ ⟨l.toNat, hl⟩
  simpa only [UInt8.ofNat_toNat] using h

/-- A stream that begins with the bytes of a chunk. -/
structure Begins (s : ℕ → UInt8) : Prop where
  cmd : chunk_cmd s = c.cmd
  len : chunk_len s = c.len
  size : chunk_size s = c.bytes.length
  payload : ∀ i (hi : i < c.payload.length), s (chunk_head s + i) = c.payload[i]

theorem begins {s : ℕ → UInt8} (h : ∀ i (hi : i < c.bytes.length), s i = c.bytes[i]) :
    c.Begins s := by
  have hlen := c.len_toNat
  have hroom := c.room
  by_cases hlong : c.long = true
  · have hbytes : c.bytes = chunk_header c.cmd 7 :: c.len :: c.payload := if_pos hlong
    have hfields := c.header (l := 7) (by decide)
    simp only [hbytes, List.length_cons] at h
    have h0 := h 0 (by omega)
    have h1 := h 1 (by omega)
    have hshort : chunk_short s = 7 := by
      rw [chunk_short, h0]
      exact hfields.2
    have hlen' : chunk_len s = c.len := (if_pos hshort).trans h1
    have hhead : chunk_head s = 2 := if_pos hshort
    refine ⟨?_, hlen', ?_, fun i hi => ?_⟩
    · rw [chunk_cmd, h0]
      exact hfields.1
    · rw [chunk_size, hhead, hlen', hlen, hbytes]
      exact Nat.add_comm 2 _
    · rw [hhead, Nat.add_comm 2 i]
      exact h (i + 2) (by omega)
  · rw [if_neg hlong] at hroom
    have hbytes : c.bytes = chunk_header c.cmd c.len :: c.payload := if_neg hlong
    have hfields := c.header (l := c.len) (by omega)
    simp only [hbytes, List.length_cons] at h
    have h0 := h 0 (by omega)
    have hshort : chunk_short s = c.len := by
      rw [chunk_short, h0]
      exact hfields.2
    have h7 : chunk_short s ≠ 7 := by
      rw [hshort]
      intro h7
      rw [h7] at hlen
      have : (7 : UInt8).toNat = 7 := rfl
      omega
    have hlen' : chunk_len s = c.len := (if_neg h7).trans hshort
    have hhead : chunk_head s = 1 := if_neg h7
    refine ⟨?_, hlen', ?_, fun i hi => ?_⟩
    · rw [chunk_cmd, h0]
      exact hfields.1
    · rw [chunk_size, hhead, hlen', hlen, hbytes]
      exact Nat.add_comm 1 _
    · rw [hhead, Nat.add_comm 1 i]
      exact h (i + 1) (by omega)

end Chunk

/-- What the last of the chunks with `p` gives. -/
def last_with {α : Type} (p : Chunk → Prop) [DecidablePred p] (f : Chunk → α) (none : α)
    (chunks : List Chunk) : α :=
  ((chunks.filter fun c => p c).getLast?.map f).getD none

/-- The signal strength of the last of the chunks that give one. -/
def last_rssi : List Chunk → ℤ :=
  last_with Chunk.IsRssi (fun c => (c.payload.getD 0 0).toInt8.toInt - 64) 0

/-- The last packet of the chunks, without its flag byte. -/
def last_data : List Chunk → List UInt8 := last_with Chunk.IsData (fun c => c.payload.tail) []

theorem last_with_concat {α : Type} (p : Chunk → Prop) [DecidablePred p] (f : Chunk → α) (none : α)
    (chunks : List Chunk) (c : Chunk) : last_with p f none (chunks ++ [c]) =
      if p c then f c else last_with p f none chunks := by
  rw [last_with, List.filter_append, List.filter_singleton]
  by_cases h : p c
  · rw [if_pos h, decide_eq_true h, cond_true, List.getLast?_concat, Option.map_some,
      Option.getD_some]
  · rw [if_neg h, decide_eq_false h, cond_false, List.append_nil, last_with]

/-! ### The FIFO as a list -/

/-- The FIFO holds `bytes`. -/
structure Filled (bytes : List UInt8) (r : Ax5043) : Prop where
  data : ∀ (reads : ℕ → ℕ) (k : ℕ) (hk : k < bytes.length),
    reads REG_AX5043_FIFODATA = r.reads REG_AX5043_FIFODATA + k →
      r.shows REG_AX5043_FIFODATA reads = bytes[k]
  irq : ∀ (reads : ℕ → ℕ) (k : ℕ), reads REG_AX5043_FIFODATA = r.reads REG_AX5043_FIFODATA + k →
    (r.shows REG_AX5043_IRQREQUEST0 reads &&& 0x01 ≠ 0 ↔ k < bytes.length)

/-- What `ReceiveData` has made of the chunks so far. -/
structure Parsed (chunks : List Chunk) (r : Ax5043) : Prop where
  rssioffset : r.config.axradio_phy_rssioffset = 64
  ubRssi : r.ubRssi = last_rssi chunks
  RxLen : r.RxLen.toNat = (last_data chunks).length
  RXBuff : (∀ c ∈ chunks, c.cmd = AX5043_FIFOCMD_DATA → c.payload.length ≤ 65) →
    last_data chunks <+: r.RXBuff.toList

section list
variable {chunks rest : List Chunk} {c : Chunk} {r r' : Ax5043}

/-- The next bytes of the FIFO are those of the next chunk. -/
theorem Filled.begins (h : Filled ((c :: rest).flatMap Chunk.bytes) r) : c.Begins r.byte := by
  apply c.begins
  intro i hi
  have hlen : i < ((c :: rest).flatMap Chunk.bytes).length := by
    rw [List.flatMap_cons, List.length_append]
    omega
  apply (h.data _ i hlen (reads_pop r i)).trans
  simp only [List.flatMap_cons, List.getElem_append_left hi]

/-- Behind a turn the FIFO holds the other chunks. -/
theorem Filled.turned (h : Filled ((c :: rest).flatMap Chunk.bytes) r) (ht : Turned r r') :
    Filled (rest.flatMap Chunk.bytes) r' := by
  have hsize := h.begins.size
  have hlen : ((c :: rest).flatMap Chunk.bytes).length =
      c.bytes.length + (rest.flatMap Chunk.bytes).length := by
    rw [List.flatMap_cons, List.length_append]
  refine ⟨fun reads k hk hreads => ?_, fun reads k hreads => ?_⟩
  · rw [ht.reads, hsize, Nat.add_assoc] at hreads
    rw [ht.shows]
    apply (h.data reads _ (by omega) hreads).trans
    simp only [List.flatMap_cons]
    rw [List.getElem_append_right (by omega)]
    simp only [Nat.add_sub_cancel_left]
  · rw [ht.reads, hsize, Nat.add_assoc] at hreads
    rw [ht.shows, h.irq reads _ hreads, hlen]
    exact Nat.add_lt_add_iff_left

/-- A turn parses the next chunk. -/
theorem Parsed.turned (h : Parsed chunks r) (hc : c.Begins r.byte) (ht : Turned r r') :
    Parsed (chunks ++ [c]) r' := by
  have hlen := c.len_toNat
  refine ⟨by rw [ht.config]; exact h.rssioffset, ?_, ?_, fun hfit => ?_⟩
  · rw [ht.ubRssi, hc.cmd, hc.len, h.rssioffset, h.ubRssi, last_rssi, last_with_concat]
    show (if c.IsRssi then _ else _) = _
    by_cases hrssi : c.IsRssi
    · have h1 : c.payload.length = 1 := by rw [← hlen, hrssi.2]; rfl
      have hbyte := hc.payload 0 (by omega)
      have hget : c.payload.getD 0 0 = c.payload[0] := by
        rw [List.getD_eq_getElem?_getD, List.getElem?_eq_getElem (by omega), Option.getD_some]
      rw [if_pos hrssi, if_pos hrssi, ← Nat.add_zero (chunk_head r.byte), hbyte, hget]
      rfl
    · rw [if_neg hrssi, if_neg hrssi]
  · rw [ht.RxLen, hc.cmd, hc.len, last_data, last_with_concat]
    show (if c.IsData then _ else _ : UInt8).toNat = _
    by_cases hdata : c.IsData
    · rw [if_pos hdata, if_pos hdata, (len_pred hdata.2).2, hlen, List.length_tail]
    · rw [if_neg hdata, if_neg hdata]
      exact h.RxLen
  · rw [last_data, last_with_concat]
    have hbuff := ht.RXBuff
    have hothers := ht.others
    rw [hc.cmd, hc.len] at hbuff hothers
    by_cases hdata : c.IsData
    · have h65 := hfit c (by simp) hdata.1
      rw [if_pos hdata, List.prefix_iff_getElem?]
      intro i hi
      rw [List.length_tail] at hi
      have hcell := hbuff hdata (by omega) i (by omega)
      rw [hc.payload (1 + i) (by omega)] at hcell
      rw [Vector.getElem?_toList, hcell, List.getElem_tail]
      simp only [Nat.add_comm 1 i]
    · rw [if_neg hdata, hothers hdata]
      exact h.RXBuff fun d hd => hfit d (by simp [hd])

end list

/-- The loop of `ReceiveData` takes all chunks. -/
theorem receive_loop_parsed {rest chunks : List Chunk} {r : Ax5043} (hp : Parsed chunks r)
    (hf : Filled (rest.flatMap Chunk.bytes) r)
    (hirq : r.irqrequest0 &&& 0x01 ≠ 0 ↔ 0 < (rest.flatMap Chunk.bytes).length) :
    (loop (fun r => r.irqrequest0 &&& 0x01 ≠ 0) (receive_turn (chunk_switch skip))).Returns r fun r' =>
      Parsed (chunks ++ rest) r' ∧ r'.reads REG_AX5043_FIFODATA =
        r.reads REG_AX5043_FIFODATA + (rest.flatMap Chunk.bytes).length := by
  induction rest generalizing chunks r with
  | nil =>
      rw [returns_loop, if_neg (by simpa using hirq)]
      exact ⟨by rwa [List.append_nil], rfl⟩
  | cons c rest ih =>
      have hc := hf.begins
      have hlen : ((c :: rest).flatMap Chunk.bytes).length =
          c.bytes.length + (rest.flatMap Chunk.bytes).length := by
        rw [List.flatMap_cons, List.length_append]
      have hpos : 0 < c.bytes.length := by
        rw [Chunk.bytes]
        split_ifs <;> simp
      rw [returns_loop, if_pos (by simpa using hirq.mpr (by omega))]
      apply (receive_turn_turned r).mono
      intro r' ht
      have hf' := hf.turned ht
      obtain ⟨reads, hreads, hirq'⟩ := ht.irqrequest0
      refine (ih (hp.turned hc ht) hf' ?_).mono fun r'' h => ⟨?_, ?_⟩
      · rw [hirq', ← ht.shows, hf'.irq reads 0 (hreads.trans ht.reads.symm)]
      · simpa using h.1
      · rw [h.2, ht.reads, hc.size, hlen, Nat.add_assoc]

/-- Before the loop. -/
def begun (r : Ax5043) : Ax5043 :=
  let r := { r with ubRssi := 0, RxLen := 0, RXBuff := Vector.replicate 64 0 }
  { r.seen REG_AX5043_RADIOEVENTREQ0 with ubDataLen := r.shown REG_AX5043_RADIOEVENTREQ0 }.tested

theorem receive_with_returns {p : Prog Ax5043} {r : Ax5043} {Q : Ax5043 → Prop} :
    (receive_with p).Returns r Q ↔
      (loop (fun r => r.irqrequest0 &&& 0x01 ≠ 0) (receive_turn p)).Returns (begun r) Q := by
  rw [receive_with, returns_block_cons, returns_act, returns_block_cons,
    SpiReadSingleAddressRegister, returns_act, returns_block_cons, read_irqrequest0,
    SpiReadSingleAddressRegister, returns_act, returns_block_cons]
  simp only [returns_block_nil]
  exact Iff.rfl

section begun
variable (r : Ax5043)

theorem begun_same : (begun r).shows = r.shows ∧ (begun r).config = r.config ∧
    (begun r).ubRssi = 0 ∧ (begun r).RxLen = 0 := by
  simp only [begun, tested, seen, status, List.mem_cons, List.not_mem_nil, or_false]
  exact ⟨rfl, rfl, rfl, rfl⟩

theorem begun_reads : (begun r).reads REG_AX5043_FIFODATA = r.reads REG_AX5043_FIFODATA := by
  simp [begun, tested, seen, status]

theorem begun_irqrequest0 : ∃ reads : ℕ → ℕ,
    reads REG_AX5043_FIFODATA = r.reads REG_AX5043_FIFODATA ∧
      (begun r).irqrequest0 = r.shows REG_AX5043_IRQREQUEST0 reads :=
  ⟨({ r with ubRssi := 0, RxLen := 0, RXBuff := Vector.replicate 64 0 }.seen
    REG_AX5043_RADIOEVENTREQ0).reads, by simp [seen, status], by simp [begun, tested, shown, seen, status]⟩

end begun

/-- **The parser of the FIFO stays aligned**: over well-formed chunks `ReceiveData` returns and has
taken all their bytes; it leaves the signal strength of the last `RSSI` chunk and the length of the
last `DATA` chunk, and if no packet is longer than `RXBuff`, the last one is at its front. -/
theorem receive_chunks (chunks : List Chunk) {r : Ax5043}
    (hr : Filled (chunks.flatMap Chunk.bytes) r) (hoffset : r.config.axradio_phy_rssioffset = 64) :
    ReceiveData.unchecked.Returns r fun r' =>
      r'.reads REG_AX5043_FIFODATA =
        r.reads REG_AX5043_FIFODATA + (chunks.flatMap Chunk.bytes).length ∧
      r'.ubRssi = last_rssi chunks ∧ r'.RxLen.toNat = (last_data chunks).length ∧
      ((∀ c ∈ chunks, c.cmd = AX5043_FIFOCMD_DATA → c.payload.length ≤ 65) →
        last_data chunks <+: r'.RXBuff.toList) := by
  obtain ⟨hshows, hconfig, hrssi, hlen⟩ := begun_same r
  have hreads := begun_reads r
  have hparsed : Parsed [] (begun r) :=
    ⟨by rw [hconfig, hoffset], hrssi, congrArg UInt8.toNat hlen, fun _ => List.nil_prefix⟩
  have hfilled : Filled (chunks.flatMap Chunk.bytes) (begun r) := by
    refine ⟨fun reads k hk h => ?_, fun reads k h => ?_⟩
    · rw [hshows]
      exact hr.data reads k hk (h.trans (by rw [hreads]))
    · rw [hshows]
      exact hr.irq reads k (h.trans (by rw [hreads]))
  obtain ⟨reads, h0, hirq⟩ := begun_irqrequest0 r
  rw [ReceiveData_unchecked, receive_with_returns]
  apply (receive_loop_parsed hparsed hfilled (by rw [hirq, hr.irq reads 0 h0])).mono
  intro r' h
  exact ⟨h.2.trans (by rw [hreads]), h.1.ubRssi, h.1.RxLen, h.1.RXBuff⟩

/-- A chip with these bytes in its FIFO. -/
def fifo_chip (bytes : List UInt8) (a : ℕ) (reads : ℕ → ℕ) : UInt8 :=
  if a = REG_AX5043_FIFODATA then bytes.getD (reads REG_AX5043_FIFODATA) 0
  else if a = REG_AX5043_IRQREQUEST0 ∧ reads REG_AX5043_FIFODATA < bytes.length then 1
  else 0

/-- The configured driver before that chip. -/
def before_fifo (bytes : List UInt8) : Ax5043 :=
  { Ax5043.start (fifo_chip bytes) with config := rf_4068_config_init }

theorem fifo_chip_irq (bytes : List UInt8) (reads : ℕ → ℕ) :
    fifo_chip bytes REG_AX5043_IRQREQUEST0 reads &&& 0x01 ≠ 0 ↔
      reads REG_AX5043_FIFODATA < bytes.length := by
  rw [fifo_chip, if_neg (by decide)]
  by_cases h : reads REG_AX5043_FIFODATA < bytes.length
  · rw [if_pos ⟨rfl, h⟩]
    exact iff_of_true (by decide) h
  · rw [if_neg fun h' => h h'.2]
    exact iff_of_false (by decide) h

theorem before_fifo_filled (bytes : List UInt8) : Filled bytes (before_fifo bytes) := by
  refine ⟨fun reads k hk h => ?_, fun reads k h => ?_⟩
  · have hk' : reads REG_AX5043_FIFODATA = k := h.trans (Nat.zero_add k)
    show fifo_chip bytes REG_AX5043_FIFODATA reads = _
    rw [fifo_chip, if_pos rfl, hk', List.getD_eq_getElem?_getD, List.getElem?_eq_getElem hk,
      Option.getD_some]
  · have hk' : reads REG_AX5043_FIFODATA = k := h.trans (Nat.zero_add k)
    rw [← hk']
    exact fifo_chip_irq bytes reads

/-- A signal strength of `-104`, and a packet of three bytes. -/
def reception : List Chunk :=
  [⟨AX5043_FIFOCMD_RSSI, false, [0xD8], by decide, by decide⟩,
    ⟨AX5043_FIFOCMD_DATA, true, [3, 1, 2, 3], by decide, by decide⟩]

theorem receive_chunks_reception :
    ReceiveData.unchecked.Returns (before_fifo (reception.flatMap Chunk.bytes)) fun r' =>
      r'.ubRssi = -104 ∧ r'.RxLen.toNat = 3 ∧ [1, 2, 3] <+: r'.RXBuff.toList := by
  apply (receive_chunks reception (before_fifo_filled _) rfl).mono
  intro r' h
  exact ⟨h.2.1, h.2.2.1, h.2.2.2 (by decide)⟩

/-! ### The FIFO as a stream -/

/-- The readings of `FIFODATA` are those of `s`, and `size` of them are there. -/
structure Streams (s : ℕ → UInt8) (size : ℕ) (r : Ax5043) : Prop where
  data : ∀ (reads : ℕ → ℕ) (k : ℕ), reads REG_AX5043_FIFODATA = r.reads REG_AX5043_FIFODATA + k →
    r.shows REG_AX5043_FIFODATA reads = s k
  irq : ∀ (reads : ℕ → ℕ) (k : ℕ), reads REG_AX5043_FIFODATA = r.reads REG_AX5043_FIFODATA + k →
    (r.shows REG_AX5043_IRQREQUEST0 reads &&& 0x01 ≠ 0 ↔ k < size)

/-- The stream from index `p` on. -/
def from_at (s : ℕ → UInt8) (p : ℕ) : ℕ → UInt8 := fun i => s (p + i)

/-- Where chunk `k` of the stream begins. -/
def chunk_at (s : ℕ → UInt8) : ℕ → ℕ
  | 0 => 0
  | k + 1 => chunk_at s k + chunk_size (from_at s (chunk_at s k))

/-- The chunk that begins the stream fits into `RXBuff` if it is a packet. -/
def FitsFirst (s : ℕ → UInt8) : Prop :=
  chunk_cmd s = AX5043_FIFOCMD_DATA → (chunk_len s).toNat ≤ 65

/-- All chunks that begin in the FIFO do. -/
def Fits (s : ℕ → UInt8) (size : ℕ) : Prop :=
  ∀ k, chunk_at s k < size → FitsFirst (from_at s (chunk_at s k))

section stream
variable (s : ℕ → UInt8)

theorem chunk_size_pos : 0 < chunk_size s := by
  rw [chunk_size, chunk_head]
  split_ifs <;> omega

theorem from_at_from_at (p q : ℕ) : from_at (from_at s p) q = from_at s (p + q) := by
  funext i
  rw [from_at, from_at, from_at, Nat.add_assoc]

theorem from_at_zero : from_at s 0 = s := by
  funext i
  rw [from_at, Nat.zero_add]

/-- The chunks behind the first one. -/
theorem chunk_at_succ (k : ℕ) : chunk_at s (k + 1) =
    chunk_size s + chunk_at (from_at s (chunk_size s)) k := by
  induction k with
  | zero =>
      show 0 + chunk_size (from_at s 0) = chunk_size s + 0
      rw [from_at_zero, Nat.zero_add, Nat.add_zero]
  | succ k ih =>
      rw [chunk_at, ih, chunk_at, from_at_from_at, Nat.add_assoc]

theorem fits_zero : Fits s 0 := fun _ h => absurd h (Nat.not_lt_zero _)

theorem fits_iff {size : ℕ} (hsize : 0 < size) :
    Fits s size ↔ FitsFirst s ∧ Fits (from_at s (chunk_size s)) (size - chunk_size s) := by
  constructor
  · intro h
    constructor
    · have h0 := h 0 hsize
      rwa [chunk_at, from_at_zero] at h0
    · intro k hk
      have hnext := h (k + 1) (by rw [chunk_at_succ]; omega)
      rwa [chunk_at_succ, ← from_at_from_at] at hnext
  · rintro ⟨h0, h⟩ k hk
    cases k with
    | zero =>
        rw [chunk_at, from_at_zero]
        exact h0
    | succ k =>
        rw [chunk_at_succ] at hk ⊢
        rw [← from_at_from_at]
        exact h k (by omega)

end stream

section stream
variable {s : ℕ → UInt8} {size : ℕ} {r r' : Ax5043}

theorem Streams.byte (h : Streams s size r) : r.byte = s := by
  funext i
  exact h.data _ i (reads_pop r i)

/-- Behind a turn the FIFO holds what is behind the chunk. -/
theorem Streams.turned (h : Streams s size r) (ht : Turned r r') :
    Streams (from_at s (chunk_size s)) (size - chunk_size s) r' := by
  have hreads := ht.reads
  rw [h.byte] at hreads
  refine ⟨fun reads k hk => ?_, fun reads k hk => ?_⟩
  · rw [hreads, Nat.add_assoc] at hk
    rw [ht.shows]
    exact h.data reads _ hk
  · rw [hreads, Nat.add_assoc] at hk
    rw [ht.shows, h.irq reads _ hk]
    omega

/-- The loop with its check returns if and only if all packets fit. -/
theorem receive_loop_fits : ∀ {size : ℕ} {s : ℕ → UInt8} {r : Ax5043}, Streams s size r →
    r.RxLen ≤ 64 → (r.irqrequest0 &&& 0x01 ≠ 0 ↔ 0 < size) →
    ((loop (fun r => r.irqrequest0 &&& 0x01 ≠ 0) (receive_turn receive_chunk)).Returns r
      (fun r' => r'.RxLen ≤ 64) ↔ Fits s size) := by
  intro size
  induction size using Nat.strong_induction_on with
  | _ size ih =>
    intro s r h h64 hirq
    rw [returns_loop]
    by_cases h0 : size = 0
    · subst h0
      rw [if_neg (by simpa using hirq)]
      exact iff_of_true h64 (fits_zero s)
    · have hpos := chunk_size_pos s
      have hpos' : 0 < size := by omega
      rw [if_pos (by simpa using hirq.mpr hpos'), receive_turn_checked, fits_iff s hpos', h.byte]
      apply and_congr_right
      intro hfit
      apply (receive_turn_turned r).iff
      intro r' ht
      have hnext := h.turned ht
      obtain ⟨reads, hreads, hirq'⟩ := ht.irqrequest0
      refine ih _ (by omega) hnext ?_ ?_
      · rw [ht.RxLen, h.byte]
        split_ifs with hdata
        · have h65 := hfit hdata.1
          rw [UInt8.le_iff_toNat_le, (len_pred hdata.2).2]
          exact Nat.sub_le_iff_le_add.mpr h65
        · exact h64
      · rw [hirq', ← ht.shows]
        exact hnext.irq reads 0 (hreads.trans ht.reads.symm)

/-- Before the loop the stream is as it was. -/
theorem Streams.begun (h : Streams s size r) : Streams s size (begun r) ∧ (begun r).RxLen ≤ 64 ∧
    ((MeterTester.begun r).irqrequest0 &&& 0x01 ≠ 0 ↔ 0 < size) := by
  obtain ⟨hshows, -, -, hlen⟩ := begun_same r
  have hreads := begun_reads r
  obtain ⟨reads, h0, hirq⟩ := begun_irqrequest0 r
  refine ⟨⟨fun reads k hk => ?_, fun reads k hk => ?_⟩, by rw [hlen]; decide, ?_⟩
  · rw [hshows]
    exact h.data reads k (hk.trans (by rw [hreads]))
  · rw [hshows]
    exact h.irq reads k (hk.trans (by rw [hreads]))
  · rw [hirq, h.irq reads 0 h0]

/-- **The packets stay in `RXBuff`** if and only if no `DATA` chunk that begins in the FIFO is
longer than the buffer and the flag byte. -/
theorem receive_fits_iff (h : Streams s size r) :
    ReceiveData.Returns r (fun r' => r'.RxLen ≤ 64) ↔ Fits s size := by
  obtain ⟨hs, h64, hirq⟩ := h.begun
  rw [ReceiveData_eq, receive_with_returns]
  exact receive_loop_fits hs h64 hirq

end stream

theorem before_fifo_streams (bytes : List UInt8) :
    Streams (fun k => bytes.getD k 0) bytes.length (before_fifo bytes) := by
  refine ⟨fun reads k h => ?_, fun reads k h => ?_⟩
  · show fifo_chip bytes REG_AX5043_FIFODATA reads = _
    rw [fifo_chip, if_pos rfl, show reads REG_AX5043_FIFODATA = k from h.trans (Nat.zero_add k)]
  · rw [show k = reads REG_AX5043_FIFODATA from (h.trans (Nat.zero_add k)).symm]
    exact fifo_chip_irq bytes reads

/-- A packet that fills `RXBuff` up. -/
def full_packet : List UInt8 := [0xE1, 65, 3] ++ List.replicate 64 7

theorem receive_fits_full :
    ReceiveData.Returns (before_fifo full_packet) fun r' => r'.RxLen ≤ 64 := by
  apply (receive_fits_iff (before_fifo_streams full_packet)).mpr
  intro k hk
  cases k with
  | zero => exact fun _ => by decide
  | succ k =>
      rw [chunk_at_succ] at hk
      have hsize : chunk_size (fun k => full_packet.getD k 0) = full_packet.length := by decide
      omega

/-- A packet of 66 bytes, as `PKTMAXLEN` allows it. -/
def long_packet : List UInt8 := [0xE1, 67, 3] ++ List.replicate 65 7 ++ [0xAB]

/-- **A packet may be longer than `RXBuff`**: its last byte but one lands in `RxLen` and the last one
in the member behind it, and the length that is handed on is `66`. -/
theorem not_receive_fits :
    (¬ ∀ (s : ℕ → UInt8) (size : ℕ) (r : Ax5043), Streams s size r →
      ReceiveData.Returns r fun r' => r'.RxLen ≤ 64) ∧
    ReceiveData.unchecked.Returns (before_fifo long_packet) fun r' =>
      r'.RxLen = 66 ∧ r'.axradio_phy_chanpllrng = 0xAB := by
  constructor
  · intro hall
    have h := before_fifo_streams long_packet
    have hreturns := hall _ _ _ h
    obtain ⟨hs, h64, hirq⟩ := h.begun
    rw [ReceiveData_eq, receive_with_returns] at hreturns
    have hfit := (receive_loop_fits hs h64 hirq).mp hreturns 0 (by decide) (by decide)
    exact absurd hfit (by decide)
  · have hrun : (ReceiveData.unchecked.exec 2 (before_fifo long_packet)).map
        (fun r => (r.RxLen, r.axradio_phy_chanpllrng)) = some (66, 0xAB) := by decide +kernel
    obtain ⟨r', hr', h⟩ := Option.map_eq_some_iff.mp hrun
    simp only [Prod.mk.injEq] at h
    exact ⟨2, r', hr', h⟩

end MeterTester
