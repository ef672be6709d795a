import MeterTester.Interleave
import MeterTester.RingBuffer
import MeterTester.UartBound

/-! # The receive path of the serial line: `serial.c`, `ipc.c`, `MS_Uart.c`

A byte that arrives interrupts: the driver stores it in a ring of `bufsz` cells and calls
`uart_rx_ind`, which releases `rx_sem`.  `uart_sample_get_char` reads one byte from the ring; when
there is none it resets the semaphore and takes it, until a byte has come.

The ring is a queue of at most `bufsz - 1` bytes that loses its oldest one when another comes
(`RxFifo.pending_store`), and the parser is handed the bytes in the order in which they came
(`line_in_order`).  Between the failed read and the reset there is a gap: an interrupt that strikes
there is forgotten, and the thread sleeps on a byte that has arrived (`asleep_iff`). -/

namespace MeterTester

open Interleave Interleave.Prog RingBuffer

/-! ### The driver's ring -/

/-- `struct rt_serial_rx_fifo` with its buffer of `config.bufsz` cells. -/
structure RxFifo (bufsz : ℕ) where
  buffer : Vector UInt8 bufsz
  put_index : Fin bufsz
  get_index : Fin bufsz
  is_full : Bool

namespace RxFifo
variable {bufsz : ℕ}

/-- The part of `rt_hw_serial_isr` that stores a byte. -/
def store (f : RxFifo bufsz) (ch : UInt8) : RxFifo bufsz :=
  let f := { f with buffer := f.buffer.set f.put_index ch, put_index := following f.put_index }
  -- the oldest byte is given up, and the ring called full
  if f.put_index = f.get_index then { f with get_index := following f.get_index, is_full := true } else f

def is_empty (f : RxFifo bufsz) : Bool := f.get_index = f.put_index ∧ f.is_full = false

/-- One turn of the loop of `_serial_int_rx`. -/
def read (f : RxFifo bufsz) : Option UInt8 × RxFifo bufsz :=
  if f.is_empty then (none, f)
  else (some (f.buffer.get f.get_index), { f with get_index := following f.get_index, is_full := false })

/-- `rx_length` of `rt_hw_serial_isr`. -/
def rx_length (f : RxFifo bufsz) : ℕ :=
  if f.get_index ≤ f.put_index then f.put_index - f.get_index.1
  else bufsz - (f.get_index - f.put_index.1)

/-- The bytes that wait, oldest first. -/
def pending (f : RxFifo bufsz) : List UInt8 := stretch f.buffer f.get_index f.rx_length

@[simp] theorem pending_length (f : RxFifo bufsz) : f.pending.length = f.rx_length :=
  stretch_length _ _ _

theorem rx_length_lt (f : RxFifo bufsz) : f.rx_length < bufsz := by
  have hp := f.put_index.2
  have hg := f.get_index.2
  unfold rx_length
  split_ifs with h
  · omega
  · have hlt : f.put_index.1 < f.get_index.1 := Nat.lt_of_not_le h
    omega

/-- The byte behind those that wait goes where `put_index` points to. -/
theorem ahead_rx_length (f : RxFifo bufsz) : ahead f.get_index f.rx_length = f.put_index := by
  have hp := f.put_index.2
  have hg := f.get_index.2
  apply Fin.ext
  show (f.get_index.1 + f.rx_length) % bufsz = f.put_index.1
  unfold rx_length
  split_ifs with h
  · have hle : f.get_index.1 ≤ f.put_index.1 := h
    rw [show f.get_index.1 + (f.put_index.1 - f.get_index.1) = f.put_index.1 by omega]
    exact Nat.mod_eq_of_lt hp
  · have hlt : f.put_index.1 < f.get_index.1 := Nat.lt_of_not_le h
    rw [show f.get_index.1 + (bufsz - (f.get_index.1 - f.put_index.1)) = f.put_index.1 + bufsz by omega,
      Nat.add_mod_right, Nat.mod_eq_of_lt hp]

theorem rx_length_of_ahead {f : RxFifo bufsz} {n : ℕ} (hn : n < bufsz)
    (h : ahead f.get_index n = f.put_index) : f.rx_length = n := by
  rw [← f.ahead_rx_length, ahead_eq_iff _ hn f.rx_length_lt] at h
  exact h.symm

theorem rx_length_eq_zero_iff (f : RxFifo bufsz) :
    f.rx_length = 0 ↔ f.get_index = f.put_index := by
  have hpos : 0 < bufsz := by have := f.put_index.2; omega
  constructor
  · intro h
    rw [← f.ahead_rx_length, h, ahead_zero]
  · intro h
    exact rx_length_of_ahead hpos ((ahead_zero _).trans h)

/-- A ring that is called full has bytes. -/
def Filled (f : RxFifo bufsz) : Prop := f.is_full = true → f.get_index ≠ f.put_index

theorem Filled.is_empty_iff {f : RxFifo bufsz} (h : f.Filled) :
    f.is_empty = true ↔ f.pending = [] := by
  rw [← List.length_eq_zero_iff, pending_length, rx_length_eq_zero_iff, is_empty, decide_eq_true_iff]
  constructor
  · exact And.left
  · intro he
    refine ⟨he, ?_⟩
    cases hf : f.is_full with
    | false => rfl
    | true => exact absurd he (h hf)

theorem Filled.read {f : RxFifo bufsz} (h : f.Filled) : f.read.2.Filled := by
  unfold RxFifo.read
  split_ifs
  · exact h
  · intro hf
    cases hf

/-- A byte is read from the front of the queue. -/
theorem Filled.read_eq {f : RxFifo bufsz} (h : f.Filled) :
    f.read.1 = f.pending.head? ∧ f.read.2.pending = f.pending.tail := by
  unfold RxFifo.read
  split_ifs with he
  · rw [h.is_empty_iff] at he
    exact ⟨by rw [he]; rfl, by rw [he]; rfl⟩
  · obtain ⟨n, hn⟩ : ∃ n, f.rx_length = n + 1 := by
      apply Nat.exists_eq_succ_of_ne_zero
      intro h0
      apply he
      rw [h.is_empty_iff, ← List.length_eq_zero_iff, pending_length, h0]
    have hlt := f.rx_length_lt
    have hpending : f.pending = f.buffer.get f.get_index :: stretch f.buffer (following f.get_index) n := by
      rw [pending, hn, stretch_succ]
    have hrest : RxFifo.rx_length { f with get_index := following f.get_index, is_full := false } = n := by
      apply rx_length_of_ahead (by omega)
      show ahead (following f.get_index) n = f.put_index
      rw [ahead_following, ← hn, ahead_rx_length]
    rw [hpending]
    refine ⟨rfl, ?_⟩
    rw [pending, hrest, List.tail_cons]

/-- **The ring is a queue**: a byte goes behind those that wait, and where they are `bufsz` with it
the oldest one is lost. -/
theorem pending_store (f : RxFifo bufsz) (h2 : 2 ≤ bufsz) (ch : UInt8) :
    (f.store ch).pending = keep (bufsz - 1) f.pending ch ∧ (f.store ch).Filled := by
  have hlt := f.rx_length_lt
  have hset : stretch (f.buffer.set f.put_index ch) f.get_index (f.rx_length + 1) =
      f.pending ++ [ch] := by
    have hstretch := stretch_set f.buffer f.get_index hlt ch
    simp only [ahead_rx_length] at hstretch
    exact hstretch
  have hput : following f.put_index = ahead f.get_index (f.rx_length + 1) := by
    rw [← ahead_rx_length, following_ahead]
  have hpos : 0 < bufsz := by omega
  have hfull : following f.put_index = f.get_index ↔ f.rx_length + 1 = bufsz := by
    rw [hput]
    constructor
    · intro h
      by_contra hne
      have hzero := (ahead_eq_iff f.get_index (by omega) hpos).mp (h.trans (ahead_zero _).symm)
      omega
    · intro h
      rw [h, ahead_self]
  unfold store
  dsimp only
  split_ifs with h
  · have hlen := hfull.mp h
    have hrest : RxFifo.rx_length
        { buffer := f.buffer.set f.put_index ch, put_index := following f.put_index,
          get_index := following f.get_index, is_full := true } = bufsz - 1 := by
      apply rx_length_of_ahead (by omega)
      show ahead (following f.get_index) (bufsz - 1) = following f.put_index
      rw [ahead_following, Nat.sub_add_cancel (by omega), ahead_self, h]
    constructor
    · rw [keep_of_eq (by rw [pending_length]; omega), ← hset, stretch_succ, List.tail_cons, pending,
        hrest, show f.rx_length = bufsz - 1 by omega]
    · intro _ heq
      have heq : following f.get_index = following f.put_index := heq
      have hone : ahead f.get_index 1 = ahead f.get_index 0 := by
        rw [ahead_zero, ← ahead_following, ahead_zero, heq, h]
      have hz := (ahead_eq_iff f.get_index (by omega) hpos).mp hone
      omega
  · have hlen : f.rx_length + 1 < bufsz := by
      have := mt hfull.mpr h
      omega
    have hrest : RxFifo.rx_length { f with
        buffer := f.buffer.set f.put_index ch, put_index := following f.put_index } =
          f.rx_length + 1 := rx_length_of_ahead hlen hput.symm
    constructor
    · rw [keep_of_lt (by rw [pending_length]; omega), ← hset, pending, hrest]
    · intro _ heq
      exact h heq.symm

end RxFifo

/-! ### The semaphore -/

/-- `struct rt_semaphore` with at most one thread that waits. -/
structure Semaphore where
  value : ℕ
  suspended : Bool

namespace Semaphore

def rt_sem_release (s : Semaphore) : Semaphore :=
  if s.suspended then { s with suspended := false } else { s with value := (s.value + 1) % 0x10000 }

/-- `rt_sem_control(&sem, RT_IPC_CMD_RESET, RT_NULL)`. -/
def reset (_ : Semaphore) : Semaphore := ⟨0, false⟩

/-- `rt_sem_take(&sem, RT_WAITING_FOREVER)` until the thread is suspended or goes on. -/
def rt_sem_take (s : Semaphore) : Semaphore :=
  if 0 < s.value then { s with value := s.value - 1 } else { s with suspended := true }

end Semaphore

/-! ### The interrupt and the thread -/

/-- `config.bufsz` of `uart_data_sample`. -/
abbrev bufsz : ℕ := 128

theorem bufsz_pos : 0 < bufsz := by decide

structure Line where
  rx_fifo : RxFifo bufsz
  rx_sem : Semaphore
  /-- what the last `rt_device_read` has read -/
  ch : Option UInt8
  -- the history: what came, was read and was handed to the parser
  flow : Flow UInt8
  parsed : List UInt8
  /-- the last read has failed, and the semaphore has not been reset since -/
  gap : Bool
  -- the interrupts since the last failed read, before and after the reset
  early : ℕ
  late : ℕ

namespace Line

def start : Line where
  rx_fifo := ⟨Vector.replicate bufsz 0, ⟨0, bufsz_pos⟩, ⟨0, bufsz_pos⟩, false⟩
  rx_sem := ⟨0, false⟩
  ch := none
  flow := Flow.empty
  parsed := []
  gap := false
  early := 0
  late := 0

/-- The driver stores a byte. -/
def store (s : Line) (ch : UInt8) : Line :=
  { s with rx_fifo := s.rx_fifo.store ch, flow := s.flow.put (bufsz - 1) ch }

theorem store_flow (s : Line) (ch : UInt8) : (s.store ch).flow = s.flow.put (bufsz - 1) ch := rfl

def uart_rx_ind (s : Line) : Line := { s with rx_sem := s.rx_sem.rt_sem_release }

/-- An interrupt enters the history. -/
def strike (s : Line) : Line :=
  if s.gap then { s with early := s.early + 1 } else { s with late := s.late + 1 }

/-- `rt_hw_serial_isr` for the event `RT_SERIAL_EVENT_RX_IND`, with the bytes that `getc` returns. -/
def rt_hw_serial_isr (chs : List UInt8) (s : Line) : Line :=
  let s := chs.foldl store s.strike
  if s.rx_fifo.rx_length ≠ 0 then s.uart_rx_ind else s

/-- `rt_device_read(serial, 0, &ch, 1)`. -/
def rt_device_read (s : Line) : Line :=
  let got := s.rx_fifo.read
  if got.1.isSome then { s with ch := got.1, rx_fifo := got.2, flow := s.flow.take }
  else { s with ch := none, gap := true, early := 0, late := 0 }

def reset (s : Line) : Line := { s with rx_sem := s.rx_sem.reset, gap := false }

def take (s : Line) : Line := { s with rx_sem := s.rx_sem.rt_sem_take }

/-- The byte read goes to the parser. -/
def hand_over (s : Line) : Line := { s with parsed := s.parsed ++ s.ch.toList }

end Line

def uart_sample_get_char : Prog Line := .block [
  .act Line.rt_device_read,
  .loop (fun s => s.ch = none) (.block [
    .act Line.reset,
    .act Line.take,
    .check fun s => !s.rx_sem.suspended,
    .act Line.rt_device_read])]

/-- The endless loop of `data_parsing`; the rest of its turn is `Uart.data_parsing`. -/
def serial_thread : Prog Line := .forever (.block [uart_sample_get_char, .act Line.hand_over])

/-- The interrupt strikes when a byte has come. -/
inductive Arrival : Line → Line → Prop
  | isr (ch : UInt8) (chs : List UInt8) (s : Line) : Arrival s (s.rt_hw_serial_isr (ch :: chs))

/-! ### What holds between the statements -/

namespace Line

/-- The ring holds the queue of the history. -/
structure Stored (s : Line) : Prop where
  sound : s.flow.Sound (bufsz - 1)
  pending : s.rx_fifo.pending = s.flow.queue
  filled : s.rx_fifo.Filled

theorem Stored.store {s : Line} (h : s.Stored) (ch : UInt8) :
    (s.store ch).Stored ∧ (s.store ch).flow.queue ≠ [] := by
  have hring := s.rx_fifo.pending_store (by decide) ch
  have hqueue : (s.store ch).flow.queue = keep (bufsz - 1) s.flow.queue ch := by
    rw [store_flow, Flow.put_queue]
  refine ⟨⟨h.sound.put ch, ?_, hring.2⟩, ?_⟩
  · rw [hqueue, ← h.pending]
    exact hring.1
  · have hb := h.sound.bounded
    rw [hqueue, keep, ne_eq, List.drop_eq_nil_iff, List.length_append, List.length_singleton]
    show ¬ s.flow.queue.length + 1 ≤ s.flow.queue.length + 1 - 127
    omega

/-- What an interrupt leaves alone. -/
structure Struck (s s' : Line) : Prop where
  stored : s'.Stored
  queue : s'.flow.queue ≠ []
  taken : s'.flow.taken = s.flow.taken
  ch : s'.ch = s.ch
  parsed : s'.parsed = s.parsed
  gap : s'.gap = s.gap
  early : s'.early = if s.gap then s.early + 1 else s.early
  late : s'.late = if s.gap then s.late else s.late + 1
  rx_sem : s'.rx_sem = s.rx_sem.rt_sem_release

/-- The bytes that an interrupt stores. -/
theorem Stored.stores {s : Line} (h : s.Stored) (ch : UInt8) (chs : List UInt8) :
    let s' := (ch :: chs).foldl Line.store s
    s'.Stored ∧ s'.flow.queue ≠ [] ∧ s'.flow.taken = s.flow.taken ∧
      s' = { s with rx_fifo := s'.rx_fifo, flow := s'.flow } := by
  induction chs generalizing s ch with
  | nil => exact ⟨(h.store ch).1, (h.store ch).2, rfl, rfl⟩
  | cons ch' chs ih =>
      obtain ⟨hstored, hqueue, htaken, hrest⟩ := ih (h.store ch).1 ch'
      exact ⟨hstored, hqueue, htaken, hrest⟩

theorem Stored.interrupt {s s' : Line} (h : s.Stored) (hi : Arrival s s') : Struck s s' := by
  obtain ⟨ch, chs⟩ := hi
  have hstrike : s.strike.Stored := by
    unfold strike
    split_ifs <;> exact ⟨h.sound, h.pending, h.filled⟩
  obtain ⟨hstored, hqueue, htaken, hrest⟩ := hstrike.stores ch chs
  generalize hs₁ : (ch :: chs).foldl Line.store s.strike = s₁ at hstored hqueue htaken hrest
  have hlength : s₁.rx_fifo.rx_length ≠ 0 := by
    rw [← RxFifo.pending_length, hstored.pending]
    exact fun h0 => hqueue (List.length_eq_zero_iff.mp h0)
  have hisr : s.rt_hw_serial_isr (ch :: chs) = s₁.uart_rx_ind := by
    unfold rt_hw_serial_isr
    rw [hs₁]
    exact if_pos hlength
  rw [hisr]
  have hs : s₁ = { s.strike with rx_fifo := s₁.rx_fifo, flow := s₁.flow } := hrest
  have htaken' : s₁.flow.taken = s.flow.taken := by
    rw [htaken]
    unfold strike
    split_ifs <;> rfl
  refine ⟨⟨hstored.sound, hstored.pending, hstored.filled⟩, hqueue, htaken', ?_, ?_, ?_, ?_, ?_, ?_⟩ <;>
    · rw [hs]
      simp only [uart_rx_ind, strike]
      split_ifs <;> rfl

/-- The thread sleeps on bytes only if an interrupt struck before the semaphore was reset, or so many
behind it that the count came round to `0`. -/
def Asleep (s : Line) : Prop :=
  (s.flow.queue ≠ [] ↔ s.early ≠ 0 ∨ s.late ≠ 0) ∧ 0x10000 ∣ s.late

/-- What holds at every moment. -/
structure Sound (s : Line) : Prop where
  stored : s.Stored
  parsed : ∃ hand : List UInt8, hand.length ≤ 1 ∧ s.parsed ++ hand = s.flow.taken
  asleep : s.rx_sem.suspended = true → s.Asleep

/-- Before the thread reads. -/
structure Reading (s : Line) : Prop where
  stored : s.Stored
  parsed : s.parsed = s.flow.taken
  awake : s.rx_sem.suspended = false

/-- Behind the read: what was read is in hand, or else nothing waited. -/
structure HasRead (s : Line) : Prop where
  stored : s.Stored
  parsed : s.parsed ++ s.ch.toList = s.flow.taken
  awake : s.rx_sem.suspended = false
  failed : s.ch = none → s.gap = true ∧ s.late = 0 ∧ (s.flow.queue ≠ [] ↔ s.early ≠ 0)

/-- Behind the reset the semaphore counts the interrupts. -/
structure WasReset (s : Line) : Prop where
  stored : s.Stored
  parsed : s.parsed = s.flow.taken
  awake : s.rx_sem.suspended = false
  gap : s.gap = false
  value : s.rx_sem.value = s.late % 0x10000
  queue : s.flow.queue ≠ [] ↔ s.early ≠ 0 ∨ s.late ≠ 0

/-- The thread waits, or need not wait. -/
structure Taking (s : Line) : Prop where
  stored : s.Stored
  parsed : s.parsed = s.flow.taken
  gap : s.gap = false
  asleep : s.rx_sem.suspended = true → s.Asleep

theorem holds_reading : Holds Arrival Sound Reading where
  stable s s' h hi := by
    have hk := h.stored.interrupt hi
    refine ⟨hk.stored, by rw [hk.parsed, hk.taken, h.parsed], ?_⟩
    rw [hk.rx_sem, Semaphore.rt_sem_release, h.awake]
    rfl
  keeps s h := ⟨h.stored, ⟨[], Nat.zero_le 1, by rw [List.append_nil, h.parsed]⟩,
    fun hs => by rw [h.awake] at hs; cases hs⟩

theorem holds_hasRead : Holds Arrival Sound HasRead where
  stable s s' h hi := by
    have hk := h.stored.interrupt hi
    refine ⟨hk.stored, by rw [hk.parsed, hk.taken, hk.ch, h.parsed], ?_, fun hc => ?_⟩
    · rw [hk.rx_sem, Semaphore.rt_sem_release, h.awake]
      rfl
    · rw [hk.ch] at hc
      obtain ⟨hgap, hlate, -⟩ := h.failed hc
      refine ⟨by rw [hk.gap, hgap], by rw [hk.late, hgap, if_pos rfl, hlate], iff_of_true hk.queue ?_⟩
      rw [hk.early, hgap, if_pos rfl]
      exact Nat.succ_ne_zero _
  keeps s h := by
    refine ⟨h.stored, ⟨s.ch.toList, ?_, h.parsed⟩, fun hs => by rw [h.awake] at hs; cases hs⟩
    cases s.ch with
    | none => exact Nat.zero_le 1
    | some ch => exact le_rfl

theorem holds_wasReset : Holds Arrival Sound WasReset where
  stable s s' h hi := by
    have hk := h.stored.interrupt hi
    have hlate : s'.late = s.late + 1 := by
      rw [hk.late, h.gap]
      rfl
    refine ⟨hk.stored, by rw [hk.parsed, hk.taken, h.parsed], ?_, by rw [hk.gap, h.gap], ?_,
      iff_of_true hk.queue ?_⟩
    · rw [hk.rx_sem, Semaphore.rt_sem_release, h.awake]
      rfl
    · rw [hk.rx_sem, Semaphore.rt_sem_release, h.awake, hlate]
      show (s.rx_sem.value + 1) % 0x10000 = (s.late + 1) % 0x10000
      rw [h.value, Nat.mod_add_mod]
    · right
      rw [hlate]
      exact Nat.succ_ne_zero _
  keeps s h := ⟨h.stored, ⟨[], Nat.zero_le 1, by rw [List.append_nil, h.parsed]⟩,
    fun hs => by rw [h.awake] at hs; cases hs⟩

theorem holds_taking : Holds Arrival Sound Taking where
  stable s s' h hi := by
    have hk := h.stored.interrupt hi
    refine ⟨hk.stored, by rw [hk.parsed, hk.taken, h.parsed], by rw [hk.gap, h.gap], fun hs => ?_⟩
    -- an interrupt wakes the thread, and one that is awake it leaves so
    rw [hk.rx_sem, Semaphore.rt_sem_release] at hs
    split_ifs at hs with hsus
    exact absurd hs hsus
  keeps s h := ⟨h.stored, ⟨[], Nat.zero_le 1, by rw [List.append_nil, h.parsed]⟩, h.asleep⟩

theorem Reading.read {s : Line} (h : s.Reading) : s.rt_device_read.HasRead := by
  have hread := h.stored.filled.read_eq
  have hfilled := h.stored.filled.read
  rw [h.stored.pending] at hread
  unfold rt_device_read
  dsimp only
  cases hq : s.flow.queue with
  | nil =>
      rw [hq] at hread
      rw [hread.1, if_neg (by simp)]
      refine ⟨⟨h.stored.sound, h.stored.pending, h.stored.filled⟩, ?_, h.awake, fun _ => ⟨rfl, rfl, ?_⟩⟩
      · simpa using h.parsed
      · simp [hq]
  | cons ch q =>
      rw [hq] at hread
      rw [hread.1, if_pos (by simp)]
      refine ⟨⟨h.stored.sound.take, ?_, hfilled⟩, ?_, h.awake, fun hc => by cases hc⟩
      · show s.rx_fifo.read.2.pending = s.flow.queue.tail
        rw [hread.2, hq]
      · show s.parsed ++ [ch] = s.flow.taken ++ s.flow.queue.head?.toList
        rw [h.parsed, hq]
        rfl

theorem HasRead.reset {s : Line} (h : s.HasRead) (hc : s.ch = none) : s.reset.WasReset := by
  obtain ⟨-, hlate, hqueue⟩ := h.failed hc
  have hparsed := h.parsed
  rw [hc, Option.toList_none, List.append_nil] at hparsed
  refine ⟨⟨h.stored.sound, h.stored.pending, h.stored.filled⟩, hparsed, rfl, rfl, ?_, ?_⟩
  · show 0 = s.late % 0x10000
    rw [hlate]
  · show s.flow.queue ≠ [] ↔ s.early ≠ 0 ∨ s.late ≠ 0
    rw [hqueue, hlate]
    simp

theorem WasReset.take {s : Line} (h : s.WasReset) : s.take.Taking := by
  refine ⟨⟨h.stored.sound, h.stored.pending, h.stored.filled⟩, h.parsed, h.gap, fun hs => ⟨h.queue, ?_⟩⟩
  have hvalue : ¬ 0 < s.rx_sem.value := by
    intro hpos
    have hsus : (s.rx_sem.rt_sem_take).suspended = true := hs
    rw [Semaphore.rt_sem_take, if_pos hpos, h.awake] at hsus
    cases hsus
  rw [h.value] at hvalue
  exact Nat.dvd_of_mod_eq_zero (Nat.eq_zero_of_not_pos hvalue)

theorem HasRead.hand_over {s : Line} (h : s.HasRead) : s.hand_over.Reading :=
  ⟨⟨h.stored.sound, h.stored.pending, h.stored.filled⟩, h.parsed, h.awake⟩

theorem get_char_triple :
    Triple Arrival Sound Reading uart_sample_get_char fun s => s.HasRead ∧ s.ch ≠ none := by
  have hQ : Holds Arrival Sound fun s => s.HasRead ∧ s.ch ≠ none :=
    ⟨fun s s' h hi => ⟨holds_hasRead.stable s s' h.1 hi, by rw [(h.1.stored.interrupt hi).ch]; exact h.2⟩,
      fun s h => holds_hasRead.keeps s h.1⟩
  have hnone : Holds Arrival Sound fun s => s.HasRead ∧ s.ch = none :=
    ⟨fun s s' h hi => ⟨holds_hasRead.stable s s' h.1 hi, by rw [(h.1.stored.interrupt hi).ch]; exact h.2⟩,
      fun s h => holds_hasRead.keeps s h.1⟩
  have hread : Triple Arrival Sound Reading (.act rt_device_read) HasRead :=
    .act holds_reading holds_hasRead fun s h => h.read
  have hbody : Triple Arrival Sound (fun s => s.HasRead ∧ s.ch = none) (.block [
      .act Line.reset,
      .act Line.take,
      .check fun s => !s.rx_sem.suspended,
      .act Line.rt_device_read]) HasRead :=
    .block_cons (.act hnone holds_wasReset fun s h => h.1.reset h.2) <|
    .block_cons (.act holds_wasReset holds_taking fun s h => h.take) <|
    .block_cons (.check holds_taking holds_reading fun s h hc =>
      ⟨h.stored, h.parsed, by simpa using hc⟩) <|
    .block_last holds_hasRead hread
  refine .block_cons hread (.block_last hQ (.loop holds_hasRead hQ (hbody.pre ?_) ?_))
  · exact fun s h => ⟨h.1, by simpa using h.2⟩
  · exact fun s h hc => ⟨h, by simpa using hc⟩

theorem turn_triple :
    Triple Arrival Sound Reading (.block [uart_sample_get_char, .act hand_over]) Reading := by
  refine .block_cons get_char_triple (.block_last holds_reading ?_)
  refine .act ⟨fun s s' h hi => ?_, fun s h => holds_hasRead.keeps s h.1⟩ holds_reading ?_
  · exact ⟨holds_hasRead.stable s s' h.1 hi, by rw [(h.1.stored.interrupt hi).ch]; exact h.2⟩
  · exact fun s h => h.1.hand_over

theorem serial_thread_triple : Triple Arrival Sound Reading serial_thread fun _ => False :=
  .forever holds_reading turn_triple

theorem reading_start : start.Reading :=
  ⟨⟨.empty, by decide, fun h => by cases h⟩, rfl, rfl⟩

/-- What holds whenever the interrupts and the thread have run in any order. -/
theorem sound_reach {p : Prog Line} {s : Line} (h : Reach Arrival serial_thread start p s) : s.Sound :=
  (serial_thread_triple start reading_start p s h).1

/-! ### Without interrupts -/

theorem Reading.read_some {s : Line} (h : s.Reading) {ch : UInt8} {q : List UInt8}
    (hq : s.flow.queue = ch :: q) :
    s.rt_device_read = { s with ch := some ch, rx_fifo := s.rx_fifo.read.2, flow := s.flow.take } := by
  have hgot : s.rx_fifo.read.1 = some ch := by
    rw [h.stored.filled.read_eq.1, h.stored.pending, hq]
    rfl
  unfold rt_device_read
  dsimp only
  rw [hgot]
  rfl

/-- A turn with a byte in the ring hands it over. -/
theorem Reading.turn {s : Line} (h : s.Reading) (hq : s.flow.queue ≠ []) :
    ∃ s', (Prog.block [uart_sample_get_char, .act hand_over]).exec 1 s = some s' ∧ s'.Reading ∧
      s'.flow = s.flow.take := by
  obtain ⟨ch, q, hcons⟩ := List.exists_cons_of_ne_nil hq
  have hread := h.read_some hcons
  refine ⟨s.rt_device_read.hand_over, ?_, h.read.hand_over, ?_⟩
  · simp only [uart_sample_get_char, exec_block_cons, bind_exec_nil, exec_act, Option.bind_some]
    rw [exec, turns, if_neg (by rw [hread]; simp)]
    rfl
  · rw [hread]
    rfl

/-- A read that finds nothing puts the thread to sleep, whatever strikes in the gap. -/
theorem sleep_reach (env : Line → Line → Prop) {s s₁ : Line} (hnone : s.rt_device_read.ch = none)
    (hgap : Relation.ReflTransGen env s.rt_device_read s₁) :
    ∃ p, Reach env serial_thread s p s₁.reset.take := by
  have hstrikes : ∀ {p : Prog Line}, Reach env p s.rt_device_read p s₁ := by
    intro p
    induction hgap with
    | refl => exact .refl
    | tail _ he ih => exact ih.env he
  have hread : Reach env (.act rt_device_read) s .skip s.rt_device_read := Reach.refl.step (.act _ s)
  have htest := (Reach.refl : Reach env _ _ _ _).step (Step.loop_true (c := fun s : Line => s.ch = none)
    (Prog.block [.act reset, .act take, .check fun s => !s.rx_sem.suspended, .act rt_device_read])
    (s := s.rt_device_read) (by rw [hnone]; rfl))
  have hbody : ∀ rest : Prog Line, Reach env (.seq (.act reset) (.seq (.act take) rest)) s₁ rest
      s₁.reset.take := fun rest =>
    (Reach.refl.step (.act _ _)).seq_skip ((Reach.refl.step (.act _ _)).seq_skip .refl)
  have hget := hread.seq_skip (((htest.trans hstrikes).trans ((hbody _).seq _)).seq .skip)
  exact ⟨_, (Reach.refl.step (.loop_true _ rfl)).trans ((hget.seq _).seq _)⟩

theorem Reading.read_none {s : Line} (h : s.Reading) (hq : s.flow.queue = []) :
    s.rt_device_read = { s with ch := none, gap := true, early := 0, late := 0 } := by
  have hgot : s.rx_fifo.read.1 = none := by
    rw [h.stored.filled.read_eq.1, h.stored.pending, hq]
    rfl
  unfold rt_device_read
  dsimp only
  rw [hgot]
  rfl

/-- Undisturbed, the thread hands over what waits and goes to sleep. -/
theorem Reading.drain (env : Line → Line → Prop) {s : Line} (h : s.Reading) :
    ∃ p s', Reach env serial_thread s p s' ∧ s'.Stored ∧ s'.rx_sem.suspended = true ∧
      s'.flow.queue = [] ∧ s'.parsed = s.parsed ++ s.flow.queue := by
  generalize hq : s.flow.queue = q
  induction q generalizing s with
  | nil =>
      have hread := h.read_none hq
      obtain ⟨p, hr⟩ := sleep_reach env (by rw [hread]) Relation.ReflTransGen.refl
      rw [hread] at hr
      exact ⟨p, _, hr, ⟨h.stored.sound, h.stored.pending, h.stored.filled⟩, rfl, hq,
        (List.append_nil _).symm⟩
  | cons ch q ih =>
      obtain ⟨s₁, hexec, h₁, hflow⟩ := h.turn (by rw [hq]; exact List.cons_ne_nil ch q)
      have hqueue : s₁.flow.queue = q := by
        rw [hflow, Flow.take, hq, List.tail_cons]
      obtain ⟨p, s', hr, hstored, hsus, hempty, hparsed⟩ := ih h₁ hqueue
      have hstep : s₁.parsed = s.parsed ++ [ch] := by
        rw [h₁.parsed, h.parsed, hflow, Flow.take, hq]
        rfl
      refine ⟨p, s', (Reach.forever_turn (exec_reach hexec)).trans hr, hstored, hsus, hempty, ?_⟩
      rw [hparsed, hstep, List.append_assoc, List.singleton_append]

end Line

/-! ### The line -/

/-- What the parser has been handed, at most one byte in hand and what waits in the ring stand in the
order in which they came, and they are all that came exactly if the ring has never been overrun. -/
def Line.InOrder (s : Line) : Prop :=
  ∃ hand : List UInt8, hand.length ≤ 1 ∧
    (s.parsed ++ hand ++ s.rx_fifo.pending).Sublist s.flow.received ∧
    s.rx_fifo.pending <:+ s.flow.received ∧ s.rx_fifo.pending.length ≤ bufsz - 1 ∧
    (s.parsed ++ hand ++ s.rx_fifo.pending = s.flow.received ↔ s.flow.lost = 0)

/-- **The bytes stay in order**, whenever the interrupts and the thread have run in whatever order. -/
theorem line_in_order {p : Prog Line} {s : Line} (h : Reach Arrival serial_thread Line.start p s) :
    s.InOrder := by
  have hs := Line.sound_reach h
  obtain ⟨hand, hle, htaken⟩ := hs.parsed
  have hflow := hs.stored.sound
  refine ⟨hand, hle, ?_⟩
  rw [htaken, hs.stored.pending]
  exact ⟨hflow.in_order, hflow.newest, hflow.bounded, hflow.all_iff⟩

/-- Four bytes come: one has been parsed, one is in hand, and two wait. -/
theorem line_in_order_four : ∃ p s, Reach Arrival serial_thread Line.start p s ∧
    s.parsed = [0x40] ∧ s.ch = some 0x41 ∧ s.rx_fifo.pending = [0x42, 0x2A] ∧ s.InOrder := by
  have harrival : Arrival Line.start (Line.start.rt_hw_serial_isr [0x40, 0x41, 0x42, 0x2A]) :=
    .isr _ _ _
  have h₀ := Line.holds_reading.stable _ _ Line.reading_start harrival
  have hqueue : (Line.start.rt_hw_serial_isr [0x40, 0x41, 0x42, 0x2A]).flow.queue =
      [0x40, 0x41, 0x42, 0x2A] := by decide +kernel
  have htaken : (Line.start.rt_hw_serial_isr [0x40, 0x41, 0x42, 0x2A]).flow.taken = [] := by
    decide +kernel
  generalize Line.start.rt_hw_serial_isr [0x40, 0x41, 0x42, 0x2A] = s₀ at harrival h₀ hqueue htaken
  obtain ⟨s₁, hexec, h₁, hflow⟩ := h₀.turn (by rw [hqueue]; exact List.cons_ne_nil _ _)
  have hqueue₁ : s₁.flow.queue = [0x41, 0x42, 0x2A] := by
    rw [hflow, Flow.take, hqueue]
    rfl
  have hparsed₁ : s₁.parsed = [0x40] := by
    rw [h₁.parsed, hflow, Flow.take, htaken, hqueue]
    rfl
  have hread := h₁.read_some hqueue₁
  have hbegun : Reach Arrival (.act Line.rt_device_read) s₁ .skip s₁.rt_device_read :=
    Reach.refl.step (.act _ s₁)
  have hreach := ((Reach.refl.env harrival).trans (Reach.forever_turn (exec_reach hexec))).trans
    ((Reach.refl.step (.loop_true _ rfl)).trans (((hbegun.seq _).seq _).seq _))
  refine ⟨_, _, hreach, ?_, ?_, ?_, line_in_order hreach⟩
  · rw [hread]
    exact hparsed₁
  · rw [hread]
  · rw [h₁.read.stored.pending, hread]
    show s₁.flow.queue.tail = _
    rw [hqueue₁]
    rfl

/-- **The gap**: the thread sleeps while bytes wait exactly if an interrupt struck between the read
that found nothing and the reset of the semaphore, or the count of those behind it came round. -/
theorem asleep_iff {p : Prog Line} {s : Line} (h : Reach Arrival serial_thread Line.start p s)
    (hs : s.rx_sem.suspended = true) :
    (s.rx_fifo.pending ≠ [] ↔ s.early ≠ 0 ∨ s.late ≠ 0) ∧ 0x10000 ∣ s.late := by
  have hsound := Line.sound_reach h
  rw [hsound.stored.pending]
  exact hsound.asleep hs

/-- A byte that comes in the gap behind the first read. -/
theorem asleep_iff_gap : ∃ p s, Reach Arrival serial_thread Line.start p s ∧
    s.rx_fifo.pending ≠ [] ∧ ((s.rx_fifo.pending ≠ [] ↔ s.early ≠ 0 ∨ s.late ≠ 0) ∧ 0x10000 ∣ s.late) := by
  obtain ⟨p, hr⟩ := Line.sleep_reach Arrival (s := Line.start) (by decide)
    (.single (.isr '@'.toUInt8 [] _))
  have hasleep := asleep_iff hr rfl
  exact ⟨p, _, hr, hasleep.1.mpr (.inl (by decide)), hasleep⟩

/-- **The line is drained**: when no more bytes come, a thread before its turn hands over all that
waits and then sleeps over an empty ring. -/
theorem line_drained {s : Line} (h : Reach Arrival serial_thread Line.start serial_thread s) :
    ∃ p s', Reach (fun _ _ => False) serial_thread s p s' ∧ s'.rx_sem.suspended = true ∧
      s'.rx_fifo.pending = [] ∧ s'.parsed = s.parsed ++ s.rx_fifo.pending := by
  have hs : s.Reading := Triple.forever_head Line.holds_reading Line.turn_triple Line.reading_start h
  obtain ⟨p, s', hr, hstored, hsus, hempty, hparsed⟩ := hs.drain fun _ _ => False
  exact ⟨p, s', hr, hsus, hstored.pending.trans hempty, by rw [hparsed, hs.stored.pending]⟩

/-- Six bytes wait. -/
theorem line_drained_six : ∃ s, Reach Arrival serial_thread Line.start serial_thread s ∧
    s.rx_fifo.pending = [0x40, 0x41, 0x41, 0x30, 0x42, 0x32] ∧
    ∃ p s', Reach (fun _ _ => False) serial_thread s p s' ∧ s'.rx_sem.suspended = true ∧
      s'.rx_fifo.pending = [] ∧ s'.parsed = s.parsed ++ s.rx_fifo.pending := by
  have hreach : Reach Arrival serial_thread Line.start serial_thread
      (Line.start.rt_hw_serial_isr [0x40, 0x41, 0x41, 0x30, 0x42, 0x32]) :=
    Reach.refl.env (.isr _ _ _)
  exact ⟨_, hreach, by decide +kernel, line_drained hreach⟩

end MeterTester
