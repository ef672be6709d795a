import MeterTester.Ax5043

/-! # The radio driver: `Radio_Common.c`, `Radio_4068.c`

The functions of the driver for the one chip `rf_4068`.  `rf_4068_Init` runs in the main thread
and waits for interrupts that `rf_4068_task_callback` handles in a thread of higher priority, so
each of its statements is one of the program.  A handler is run as a whole; `TransmitData`, whose
`goto`s cross its `switch`, is a loop over `TransmitData_turn`, which leaves in `goto` the label
to go to.

`LOG_D` is compiled out (`DBG_LVL` is `DBG_INFO`), and with it the reads in its arguments.  The
chunk `RFFREQOFFS` is read and dropped: the offset made from it is used nowhere. -/

namespace MeterTester

open Interleave Interleave.Prog Ax5043

/-! ### Register tables -/

/-- A row of a table; none is read outside. -/
def row {n : ℕ} (Value : Registers n) (i : ℕ) : UInt16 × UInt16 := Value.toList.getD i (0, 0)

/-- `for (i = 0; i < n; i++)` over the rows of a table, with a static counter. -/
def write_rows {m : ℕ} (n : ℕ) (Value : Ax5043 → Registers m) (i : Ax5043 → ℕ)
    (set_i : ℕ → Ax5043 → Ax5043) : Prog Ax5043 := block
  [act (set_i 0),
    loop (fun r => i r < n) (block
      [SpiWriteLongAddressRegister (fun r => (row (Value r) (i r)).1.toNat)
        fun r => (row (Value r) (i r)).2.toUInt8,
        act fun r => set_i (i r + 1) r])]

def InitAx5043REG : Prog Ax5043 := block
  [write_rows 125 (·.RegValue) (·.init_i) fun i r => { r with init_i := i },
    SpiReadLongAddressRegister REG_AX5043_PKTLENOFFSET fun r v => r.write REG_AX5043_PKTLENOFFSET v,
    SpiWriteSingleAddressRegister REG_AX5043_PINFUNCIRQ fun _ => 0x03,
    SpiWriteLongAddressRegister (fun _ => REG_AX5043_PKTSTOREFLAGS) fun _ => 0x15]

def ax5043_init_registers_common : Prog Ax5043 :=
  cond (fun r => r.axradio_phy_chanpllrng &&& 0x20 = 0) (block
    [SpiReadSingleAddressRegister REG_AX5043_PLLLOOP fun r v =>
        if v &&& 0x80 ≠ 0 then r.write REG_AX5043_PLLRANGINGB (r.axradio_phy_chanpllrng &&& 0x0F)
        else r.write REG_AX5043_PLLRANGINGA (r.axradio_phy_chanpllrng &&& 0x0F),
      SpiReadLongAddressRegister REG_AX5043_PLLVCOI fun r rng =>
        if rng &&& 0x80 ≠ 0 then r.write REG_AX5043_PLLVCOI rng else r])

def Ax5043SetRegisters_TX : Prog Ax5043 := block
  [write_rows 6 (·.TXRegValue) (·.tx_i) fun i r => { r with tx_i := i },
    ax5043_init_registers_common]

def Ax5043SetRegisters_RX : Prog Ax5043 := block
  [write_rows 6 (·.RXRegValue) (·.rx_i) fun i r => { r with rx_i := i },
    ax5043_init_registers_common]

/-! ### Power and reset -/

def Ax5043_OFF : Prog Ax5043 := block
  [SpiWriteSingleAddressRegister REG_AX5043_IRQMASK0 fun _ => 0x00,
    SpiWriteSingleAddressRegister REG_AX5043_IRQMASK1 fun _ => 0x00,
    SpiWriteSingleAddressRegister REG_AX5043_PWRMODE fun _ => AX5043_PWRSTATE_XTAL_ON,
    SpiWriteLongAddressRegister (fun _ => REG_AX5043_LPOSCCONFIG) fun _ => 0x00,
    act fun r => { r with ubRFState := trxstate_off },
    SpiWriteSingleAddressRegister REG_AX5043_PWRMODE fun _ => AX5043_PWRSTATE_POWERDOWN]

def Ax5043_Reset : Prog Ax5043 := block
  [Ax5043_Spi_Reset,
    SpiWriteSingleAddressRegister REG_AX5043_PWRMODE fun _ => 0x00,
    SpiWriteSingleAddressRegister REG_AX5043_SCRATCH fun _ => 0x55,
    do_while (SpiReadSingleAddressRegister REG_AX5043_SCRATCH fun r v => { r with ubAddres := v })
      fun r => r.ubAddres ≠ 0x55,
    SpiWriteSingleAddressRegister REG_AX5043_PINFUNCIRQ fun _ => 0x01,
    SpiWriteSingleAddressRegister REG_AX5043_PINFUNCIRQ fun _ => 0x00,
    SpiWriteSingleAddressRegister REG_AX5043_PINFUNCIRQ fun _ => 0x03]

/-- The wait ends with the interrupt that leaves `trxstate_wait_xtal`. -/
def RadioXtalON : Prog Ax5043 := block
  [act fun r => { r with ubRFState := trxstate_wait_xtal },
    SpiReadSingleAddressRegister REG_AX5043_IRQMASK1 fun r v => { r with ubTemp := v },
    SpiWriteSingleAddressRegister REG_AX5043_IRQMASK1 fun r => r.ubTemp ||| 0x01,
    SpiWriteSingleAddressRegister REG_AX5043_PWRMODE fun _ => AX5043_PWRSTATE_XTAL_ON,
    loop (fun r => r.ubRFState = trxstate_wait_xtal) skip]

/-- The frequency, one byte a register. -/
def write_FREQA : Prog Ax5043 := block
  [SpiWriteSingleAddressRegister REG_AX5043_FREQA0 fun r => r.config.axradio_phy_chanfreq.toUInt8,
    SpiWriteSingleAddressRegister REG_AX5043_FREQA1 fun r =>
      (r.config.axradio_phy_chanfreq >>> 8).toUInt8,
    SpiWriteSingleAddressRegister REG_AX5043_FREQA2 fun r =>
      (r.config.axradio_phy_chanfreq >>> 16).toUInt8,
    SpiWriteSingleAddressRegister REG_AX5043_FREQA3 fun r =>
      (r.config.axradio_phy_chanfreq >>> 24).toUInt8]

/-- There is one channel, so the loop over the channels is passed once. -/
def rf_startup : Prog Ax5043 := block
  [Ax5043_OFF, Ax5043_Reset, InitAx5043REG, Ax5043SetRegisters_TX,
    SpiWriteSingleAddressRegister REG_AX5043_PLLLOOP fun _ => 0x09,
    SpiWriteSingleAddressRegister REG_AX5043_PLLCPI fun _ => 0x08,
    SpiWriteSingleAddressRegister REG_AX5043_PWRMODE fun _ => AX5043_PWRSTATE_XTAL_ON,
    SpiWriteSingleAddressRegister REG_AX5043_MODULATION fun _ => 0x08,
    SpiWriteLongAddressRegister (fun _ => REG_AX5043_FSKDEV2) fun _ => 0x00,
    SpiWriteLongAddressRegister (fun _ => REG_AX5043_FSKDEV1) fun _ => 0x00,
    SpiWriteLongAddressRegister (fun _ => REG_AX5043_FSKDEV0) fun _ => 0x00,
    RadioXtalON,
    write_FREQA,
    act fun r => { r with ubRFState := trxstate_pll_ranging },
    SpiWriteSingleAddressRegister REG_AX5043_IRQMASK1 fun _ => 0x10,
    SpiWriteSingleAddressRegister REG_AX5043_PLLRANGINGA fun r =>
      if r.config.axradio_phy_chanpllrnginit &&& 0xF0 = 0
      then r.config.axradio_phy_chanpllrnginit ||| 0x10 else 0x18,
    loop (fun r => r.ubRFState = trxstate_pll_ranging) skip,
    act fun r => { r with ubRFState := trxstate_off },
    SpiWriteSingleAddressRegister REG_AX5043_IRQMASK1 fun _ => 0x00,
    SpiReadSingleAddressRegister REG_AX5043_PLLRANGINGA fun r v =>
      { r with axradio_phy_chanpllrng := v },
    SpiWriteSingleAddressRegister REG_AX5043_PWRMODE fun _ => AX5043_PWRSTATE_POWERDOWN,
    InitAx5043REG, Ax5043SetRegisters_RX,
    SpiWriteSingleAddressRegister REG_AX5043_PLLRANGINGA fun r =>
      r.axradio_phy_chanpllrng &&& 0x0F,
    write_FREQA,
    act fun r => { r with ubRFState := trxstate_rx }]

def rf_restart : Prog Ax5043 := block
  [Ax5043_OFF, Ax5043_Spi_Reset,
    SpiWriteSingleAddressRegister REG_AX5043_PWRMODE fun _ => 0x00,
    SpiWriteSingleAddressRegister REG_AX5043_PINFUNCIRQ fun _ => 0x01,
    SpiWriteSingleAddressRegister REG_AX5043_PINFUNCIRQ fun _ => 0x00,
    SpiWriteSingleAddressRegister REG_AX5043_PINFUNCIRQ fun _ => 0x03,
    InitAx5043REG,
    SpiWriteSingleAddressRegister REG_AX5043_PLLRANGINGA fun r =>
      r.axradio_phy_chanpllrng &&& 0x0F,
    write_FREQA,
    act fun r => { r with ubRFState := trxstate_rx }]

/-! ### Ranging -/

def PLLRang_wait_for_xtal : Prog Ax5043 := block
  [SpiReadSingleAddressRegister REG_AX5043_IRQMASK1 fun r v =>
      r.write REG_AX5043_IRQMASK1 (v ||| 0x01),
    do_while (SpiReadSingleAddressRegister REG_AX5043_XTALSTATUS fun r v => { r with data := v })
      fun r => r.data = 0,
    SpiWriteSingleAddressRegister REG_AX5043_IRQMASK1 fun _ => 0]

/-- Ranging is started from range 8, and its end awaited. -/
def range_pll : Prog Ax5043 := block
  [SpiWriteSingleAddressRegister REG_AX5043_PLLRANGINGA fun _ => 0x18,
    do_while (SpiReadSingleAddressRegister REG_AX5043_IRQREQUEST1 fun r v =>
      { r with irqrequest1 := v }) fun r => r.irqrequest1 &&& 0x10 = 0,
    SpiWriteSingleAddressRegister REG_AX5043_IRQMASK1 fun _ => 0x00,
    SpiReadSingleAddressRegister REG_AX5043_PLLRANGINGA fun r v => { r with pllrng := v }]

/-- The current `vcoi` has given the range `pllrng`: another range than the last one opens a row
of the two tables. -/
def enter_range : Prog Ax5043 := block
  [act fun r => { r with pllrng := r.pllrng &&& 0x0f },
    ite (fun r => r.pllrng ≠ r.range_oldnum)
      (block
        [act fun r => { r with range_oldnum := r.pllrng },
          check fun r => r.range_num < 10,
          act fun r => { r with range_table := r.range_table.setIfInBounds r.range_num.toNat r.vcoi },
          act fun r =>
            { r with range_tableold := r.range_tableold.setIfInBounds r.range_num.toNat r.pllrng },
          act fun r => { r with range_num := r.range_num + 1 }])
      (block
        [check fun r => 0 < r.range_num ∧ r.range_num ≤ 10,
          cond (fun r => r.range_table.toList.getD (r.range_num - 1).toNat 0 < r.vcoi) (act fun r =>
            { r with range_table := r.range_table.setIfInBounds (r.range_num - 1).toNat r.vcoi })])]

theorem first_range_lt : 0 < 10 := by decide

def simple_autorange_pll : Prog Ax5043 := block
  [act fun r => { r with
      range_num := 0
      range_oldnum := 0
      range_table := r.range_table.set 0 0 first_range_lt
      range_tableold := r.range_tableold.set 0 0 first_range_lt
      num := 0 },
    SpiReadSingleAddressRegister REG_AX5043_PLLLOOP fun r _ => r,
    SpiReadSingleAddressRegister REG_AX5043_PLLCPI fun r _ => r,
    SpiWriteSingleAddressRegister REG_AX5043_PLLLOOP fun _ => 0x09,
    SpiWriteSingleAddressRegister REG_AX5043_PLLCPI fun _ => 0x08,
    SpiWriteSingleAddressRegister REG_AX5043_PWRMODE fun _ => AX5043_PWRSTATE_XTAL_ON,
    PLLRang_wait_for_xtal,
    act fun r => { r with pllrng := 0x20, vcoi := 0xa2 },
    loop (fun r => r.vcoi < 0xbf) (block
      [SpiWriteSingleAddressRegister REG_AX5043_IRQMASK1 fun _ => 0x00,
        SpiWriteLongAddressRegister (fun _ => REG_AX5043_PLLVCOI) fun r => r.vcoi,
        SpiWriteSingleAddressRegister REG_AX5043_IRQMASK1 fun _ => 0x10,
        SpiReadSingleAddressRegister REG_AX5043_IRQREQUEST1 fun r _ => r,
        range_pll,
        cond (fun r => r.pllrng &&& 0x20 = 0) enter_range,
        act fun r => { r with vcoi := r.vcoi + 1 }]),
    act fun r => { r with range_oldnum := 0x0F, range_i := 0 },
    loop (fun r => r.range_i < r.range_num) (block
      [check fun r => r.range_i < 10,
        cond (fun r => r.range_tableold.toList.getD r.range_i.toNat 0 ≤ r.range_oldnum) (act fun r =>
          { r with
            range_oldnum := r.range_tableold.toList.getD r.range_i.toNat 0
            num := r.range_i }),
        act fun r => { r with range_i := r.range_i + 1 }]),
    check fun r => r.num < 10,
    act fun r => { r with minvcoi := r.range_table.toList.getD r.num.toNat 0 },
    SpiWriteSingleAddressRegister REG_AX5043_IRQMASK1 fun _ => 0x10,
    range_pll,
    SpiWriteSingleAddressRegister REG_AX5043_PWRMODE fun _ => 0x0c]

/-! ### Receiving -/

def Ax5043ReceiverON : Prog Ax5043 := block
  [SpiWriteLongAddressRegister (fun _ => REG_AX5043_RSSIREFERENCE) fun r =>
      r.config.axradio_phy_rssireference.toUInt8,
    SpiWriteLongAddressRegister (fun _ => REG_AX5043_TMGRXPREAMBLE1) fun _ => 0x00,
    SpiWriteLongAddressRegister (fun _ => REG_AX5043_PKTSTOREFLAGS) fun _ => 0x50,
    SpiWriteSingleAddressRegister REG_AX5043_FIFOSTAT fun _ => 0x03,
    SpiWriteSingleAddressRegister REG_AX5043_PWRMODE fun _ => AX5043_PWRSTATE_FULL_RX,
    act fun r => { r with ubRFState := trxstate_rx },
    SpiWriteSingleAddressRegister REG_AX5043_IRQMASK0 fun _ => 0x01,
    SpiWriteSingleAddressRegister REG_AX5043_IRQMASK1 fun _ => 0x00]

def Ax5043Receiver_Continuous : Prog Ax5043 := block
  [SpiWriteSingleAddressRegister REG_AX5043_RADIOEVENTMASK0 fun _ => 0x04,
    SpiWriteLongAddressRegister (fun _ => REG_AX5043_RSSIREFERENCE) fun r =>
      r.config.axradio_phy_rssireference.toUInt8,
    SpiWriteLongAddressRegister (fun _ => REG_AX5043_TMGRXAGC) fun _ => 0,
    SpiWriteLongAddressRegister (fun _ => REG_AX5043_TMGRXPREAMBLE1) fun _ => 0,
    SpiWriteLongAddressRegister (fun _ => REG_AX5043_PKTMISCFLAGS) fun _ => 0,
    SpiReadLongAddressRegister REG_AX5043_PKTSTOREFLAGS fun r v =>
      r.write REG_AX5043_PKTSTOREFLAGS (v &&& ~~~0x40),
    SpiWriteSingleAddressRegister REG_AX5043_IRQMASK0 fun _ => 0x01,
    SpiWriteSingleAddressRegister REG_AX5043_FIFOSTAT fun _ => 0x03,
    SpiWriteSingleAddressRegister REG_AX5043_PWRMODE fun _ => AX5043_PWRSTATE_FULL_RX,
    act fun r => { r with ubRFState := trxstate_rx },
    SpiWriteSingleAddressRegister REG_AX5043_IRQMASK1 fun _ => 0x00]

/-- A byte is taken from the FIFO and not used. -/
def drop_byte : Prog Ax5043 := SpiReadSingleAddressRegister REG_AX5043_FIFODATA fun r _ => r

/-- The code at the label `dropchunk`. -/
def dropchunk : Prog Ax5043 :=
  cond (fun r => r.ubDataLen ≠ 0) (block
    [act fun r => { r with ubTepm := r.ubDataLen },
      do_while (block [drop_byte, act fun r => { r with ubTepm := r.ubTepm - 1 }])
        fun r => r.ubTepm ≠ 0])

/-- The test of the loop of `ReceiveData`. -/
def read_irqrequest0 : Prog Ax5043 :=
  SpiReadSingleAddressRegister REG_AX5043_IRQREQUEST0 fun r v => { r with irqrequest0 := v }

/-- The `switch` over the command of a chunk. -/
def receive_chunk : Prog Ax5043 :=
  switch_default (·.ubTemCom.toNat) dropchunk
    [(AX5043_FIFOCMD_DATA.toNat, cond (fun r => r.ubDataLen ≠ 0) (block
        [drop_byte,
          act fun r => { r with ubDataLen := r.ubDataLen - 1 },
          check fun r => r.ubDataLen ≤ 64,
          act fun r => SpiReadData RXBuff_offset r.ubDataLen r,
          act fun r => { r with RxLen := r.ubDataLen },
          SpiReadSingleAddressRegister REG_AX5043_IRQMASK0 fun r v => { r with ubTepm := v },
          SpiWriteSingleAddressRegister REG_AX5043_IRQMASK0 fun r => r.ubTepm &&& ~~~0x01])),
      (AX5043_FIFOCMD_RFFREQOFFS.toNat,
        ite (fun r => r.ubDataLen ≠ 3) dropchunk (block [drop_byte, drop_byte, drop_byte])),
      (AX5043_FIFOCMD_RSSI.toNat,
        ite (fun r => r.ubDataLen ≠ 1) dropchunk
          (SpiReadSingleAddressRegister REG_AX5043_FIFODATA fun r v =>
            { r with ubRssi := v.toInt8.toInt - r.config.axradio_phy_rssioffset.toInt })),
      (AX5043_FIFOCMD_TIMER.toNat,
        ite (fun r => r.ubDataLen ≠ 3) dropchunk (block [drop_byte, drop_byte, drop_byte])),
      (AX5043_FIFOCMD_ANTRSSI.toNat, cond (fun r => r.ubDataLen ≠ 0) (block
        [drop_byte,
          act fun r => { r with ubDataLen := r.ubDataLen - 1 },
          dropchunk]))]

def ReceiveData : Prog Ax5043 := block
  [act fun r => { r with ubRssi := 0, RxLen := 0, RXBuff := Vector.replicate 64 0 },
    SpiReadSingleAddressRegister REG_AX5043_RADIOEVENTREQ0 fun r v => { r with ubDataLen := v },
    read_irqrequest0,
    loop (fun r => r.irqrequest0 &&& 0x01 ≠ 0) (block
      [SpiReadSingleAddressRegister REG_AX5043_FIFODATA fun r v => { r with ubTemCom := v },
        act fun r => { r with ubDataLen := (r.ubTemCom &&& 0xE0) >>> (5 : UInt8) },
        cond (fun r => r.ubDataLen = 0x07)
          (SpiReadSingleAddressRegister REG_AX5043_FIFODATA fun r v => { r with ubDataLen := v }),
        act fun r => { r with ubTemCom := r.ubTemCom &&& 0x1F },
        receive_chunk,
        read_irqrequest0])]

/-! ### Transmitting -/

/-- The header of a chunk: `cmd | (length << 5)`. -/
def chunk_header (cmd length : UInt8) : UInt8 := cmd ||| (length <<< (5 : UInt8))

namespace Ax5043

/-- Bytes are written to `FIFODATA` one after the other. -/
def puts (r : Ax5043) (bytes : List UInt8) : Ax5043 :=
  bytes.foldl (fun r v => r.write REG_AX5043_FIFODATA v) r

/-- The two reads at the head of the loop. -/
def read_free (r : Ax5043) : Ax5043 :=
  let r := { r.seen REG_AX5043_FIFOFREE0 with ubFreeCnt := r.shown REG_AX5043_FIFOFREE0 }
  if r.shown REG_AX5043_FIFOFREE1 ≠ 0 then { r.seen REG_AX5043_FIFOFREE1 with ubFreeCnt := 0xff }
  else r.seen REG_AX5043_FIFOFREE1

/-- `n` bits of `byte` and a stop bit behind them. -/
def stop_bit (msb_first : Bool) (byte : UInt8) (n : ℕ) : UInt8 :=
  if msb_first then (byte &&& UInt8.ofNat (0xFF <<< (8 - n))) ||| UInt8.ofNat (0x80 >>> n)
  else (byte &&& UInt8.ofNat (0xFF >>> (8 - n))) ||| UInt8.ofNat (0x01 <<< n)

/-- A byte with its stop bit, where `PKTADDRCFG` says which bit goes first. -/
def put_bits (r : Ax5043) (byte : UInt8) (n : ℕ) : Ax5043 :=
  ((r.puts [chunk_header AX5043_FIFOCMD_DATA 2, 0x1C]).seen REG_AX5043_PKTADDRCFG).puts
    [stop_bit (r.shown REG_AX5043_PKTADDRCFG &&& 0x80 ≠ 0) byte n]

def append_bits (r : Ax5043) : Ax5043 :=
  if r.config.axradio_phy_preamble_appendbits ≠ 0 then
    r.put_bits r.config.axradio_phy_preamble_appendpattern
      r.config.axradio_phy_preamble_appendbits.toNat
  else r

/-- The bytes of the chunk with the sync word. -/
def sync_chunk (config : Ax5043Config) : List UInt8 :=
  let len_byte := config.axradio_framing_synclen
  let i : UInt8 := if len_byte &&& 0x07 ≠ 0 then 0x04 else 0
  let len_byte := (len_byte + 7) >>> (3 : UInt8)
  [chunk_header 0x01 (len_byte + 1), config.axradio_framing_syncflags ||| i] ++
    (List.range len_byte.toNat).map fun i => config.axradio_framing_syncword.toList.getD i 0

/-- The end of the state `trxstate_tx_shortpreamble`: the rest of the preamble. -/
def preamble_rest (r : Ax5043) : Ax5043 :=
  if r.ubFreeCnt < 4 then { r with goto := .fifocommit }
  else
    let n := if r.axradio_txbuffer_cnt < 255 * 8 then (r.axradio_txbuffer_cnt >>> 3).toUInt8 else 255
    if n ≠ 0 then
      { r with
        ubFreeCnt := n
        axradio_txbuffer_cnt := r.axradio_txbuffer_cnt - n.toUInt32 <<< 3 }.puts
          [chunk_header AX5043_FIFOCMD_REPEATDATA 3, r.config.axradio_phy_preamble_flags, n,
            r.config.axradio_phy_preamble_byte]
    else
      { r with
        ubFreeCnt := r.axradio_txbuffer_cnt.toUInt8
        axradio_txbuffer_cnt := 0 }.put_bits
          r.config.axradio_phy_preamble_byte r.axradio_txbuffer_cnt.toUInt8.toNat

def shortpreamble (r : Ax5043) : Ax5043 :=
  if r.axradio_txbuffer_cnt = 0 then
    if r.ubFreeCnt < 15 then { r with goto := .fifocommit }
    else
      let r := r.append_bits
      if r.shown REG_AX5043_FRAMING &&& 0x0E = 0x06 ∧ r.config.axradio_framing_synclen ≠ 0 then
        { (r.seen REG_AX5043_FRAMING).puts (sync_chunk r.config) with
          ubRFState := trxstate_tx_packet }
      else (r.seen REG_AX5043_FRAMING).preamble_rest
  else r.preamble_rest

def longpreamble (r : Ax5043) : Ax5043 :=
  if r.axradio_txbuffer_cnt = 0 then
    { r with
      ubRFState := trxstate_tx_shortpreamble
      axradio_txbuffer_cnt := r.config.axradio_phy_preamble_len.toUInt32 }.shortpreamble
  else if r.ubFreeCnt < 4 then { r with goto := .fifocommit }
  else
    let n := if r.axradio_txbuffer_cnt < 7 then r.axradio_txbuffer_cnt.toUInt8 else 7
    { r with
      axradio_txbuffer_cnt := r.axradio_txbuffer_cnt - n.toUInt32
      ubFreeCnt := n <<< (5 : UInt8) }.puts [chunk_header 0x02 3, 0x38, n <<< (5 : UInt8), 0x55]

/-- The state `trxstate_tx_packet`: it is `TxLen` that the source compares here. -/
def packet (r : Ax5043) : Ax5043 :=
  if r.TxLen < 11 then { r with goto := .fifocommit }
  else
    { SpiWriteData 0 r.TxLen (r.puts [chunk_header AX5043_FIFOCMD_DATA 7, 1 + r.TxLen, 3]) with
      goto := .pktend }

/-- A turn of the loop of `TransmitData`. -/
def TransmitData_turn (r : Ax5043) : Ax5043 :=
  let r := r.read_free
  if r.ubRFState = trxstate_tx_longpreamble then r.longpreamble
  else if r.ubRFState = trxstate_tx_shortpreamble then r.shortpreamble
  else if r.ubRFState = trxstate_tx_packet then r.packet
  else { r with goto := .out }

end Ax5043

/-- The code behind the loop: the one at `fifocommit` runs on into the one at `pktend`. -/
def fifocommit : Prog Ax5043 := block
  [cond (fun r => r.goto = .fifocommit)
      (SpiWriteSingleAddressRegister REG_AX5043_FIFOSTAT fun _ => 4),
    cond (fun r => r.goto ≠ .out) (block
      [SpiWriteSingleAddressRegister REG_AX5043_FIFOSTAT fun _ => 4,
        act fun r => { r with ubRFState := trxstate_tx_waitdone },
        SpiWriteSingleAddressRegister REG_AX5043_RADIOEVENTMASK0 fun _ => 0x01,
        SpiWriteSingleAddressRegister REG_AX5043_IRQMASK0 fun _ => 0x40])]

def TransmitData : Prog Ax5043 := block
  [act fun r => { r with goto := .again },
    loop (fun r => r.goto = .again) (act TransmitData_turn),
    fifocommit]

def transmit_packet_task (Buf : ℕ → UInt8) (Length : UInt8) : Prog Ax5043 := block
  [SpiWriteSingleAddressRegister REG_AX5043_PWRMODE fun _ => AX5043_PWRSTATE_XTAL_ON,
    SpiWriteSingleAddressRegister REG_AX5043_PWRMODE fun _ => AX5043_PWRSTATE_FIFO_ON,
    Ax5043SetRegisters_TX,
    act fun r => { r with TxLen := Length },
    act fun r => { r with TxLen := r.TxLen + 1 },
    act fun r => r.store 0 r.TxLen,
    act fun r => (List.range Length.toNat).foldl (fun r i => r.store (1 + i) (Buf i)) r,
    SpiWriteSingleAddressRegister REG_AX5043_FIFOTHRESH1 fun _ => 0x00,
    SpiWriteSingleAddressRegister REG_AX5043_FIFOTHRESH0 fun _ => 0x80,
    act fun r => { r with ubRFState := trxstate_tx_xtalwait },
    SpiWriteSingleAddressRegister REG_AX5043_IRQMASK0 fun _ => 0x00,
    SpiWriteSingleAddressRegister REG_AX5043_IRQMASK1 fun _ => 0x01,
    SpiReadSingleAddressRegister REG_AX5043_POWSTICKYSTAT fun r _ => r]

def Normal_send (Buf : ℕ → UInt8) (Length : UInt8) : Prog Ax5043 := block
  [act fun r => { r with axradio_txbuffer_cnt := 0 }, transmit_packet_task Buf Length]

/-! ### `Radio_4068.c` -/

def rf_4068_Init : Prog Ax5043 := block
  [act fun r => { r with config := rf_4068_config_init },
    act fun r => { r with RegValue := r.set_registers },
    act fun r => { r with TXRegValue := set_registers_tx_4068 },
    act fun r => { r with RXRegValue := set_registers_rx_4068 },
    rf_startup,
    simple_autorange_pll,
    act fun r => { r with
      set_registers := r.set_registers.set 82 (r.set_registers[82].1, r.minvcoi.toUInt16) },
    act fun r => { r with RegValue := r.set_registers },
    rf_startup,
    Ax5043SetRegisters_RX,
    Ax5043ReceiverON]

def rf_4068_send_timer_callback : Prog Ax5043 :=
  cond (fun r => r.ubRFState ≠ trxstate_rx) (block
    [SpiWriteSingleAddressRegister REG_AX5043_RADIOEVENTMASK0 fun _ => 0x00, rf_restart])

/-- The interrupt of `trxstate_tx_xtalwait` up to the call of `TransmitData`. -/
def tx_begin : Prog Ax5043 := block
  [SpiReadSingleAddressRegister REG_AX5043_RADIOEVENTREQ0 fun r _ => r,
    SpiWriteSingleAddressRegister REG_AX5043_FIFOSTAT fun _ => 0x03,
    SpiWriteSingleAddressRegister REG_AX5043_IRQMASK1 fun _ => 0x00,
    SpiWriteSingleAddressRegister REG_AX5043_IRQMASK0 fun _ => 0x08,
    act fun r => { r with ubRFState := trxstate_tx_longpreamble },
    SpiReadSingleAddressRegister REG_AX5043_MODULATION fun r v =>
      if v &&& 0x0F = 9 then r.puts [chunk_header AX5043_FIFOCMD_DATA 7, 2, 0x01, 0x11] else r]

/-- The interrupt of `trxstate_tx_waitdone`. -/
def tx_end : Prog Ax5043 := block
  [SpiReadSingleAddressRegister REG_AX5043_RADIOEVENTREQ0 fun r _ => r,
    SpiReadSingleAddressRegister REG_AX5043_RADIOSTATE fun r v => { r with radiostate := v },
    cond (fun r => r.radiostate = 0) (block
      [SpiWriteSingleAddressRegister REG_AX5043_RADIOEVENTMASK0 fun _ => 0x00, rf_restart])]

/-- The interrupt of `trxstate_rx`. -/
def rx_interrupt : Prog Ax5043 := block
  [ReceiveData, Ax5043SetRegisters_RX, Ax5043Receiver_Continuous,
    cond (fun r => r.RxLen ≠ 0) (act fun r =>
      { r with delivered := r.delivered ++ [(r.ubRssi, r.RXBuff, r.RxLen)] })]

/-- One interrupt: the body of the endless loop. -/
def rf_4068_task_callback : Prog Ax5043 :=
  switch_default (·.ubRFState)
    (block
      [SpiWriteSingleAddressRegister REG_AX5043_IRQMASK1 fun _ => 0x00,
        SpiWriteSingleAddressRegister REG_AX5043_IRQMASK0 fun _ => 0x00])
    [(trxstate_rx, rx_interrupt),
      (trxstate_wait_xtal, block
        [SpiWriteSingleAddressRegister REG_AX5043_IRQMASK1 fun _ => 0x00,
          act fun r => { r with ubRFState := trxstate_xtal_ready }]),
      (trxstate_pll_ranging, block
        [SpiWriteSingleAddressRegister REG_AX5043_IRQMASK1 fun _ => 0x00,
          act fun r => { r with ubRFState := trxstate_pll_ranging_done }]),
      (trxstate_pll_settling, block
        [SpiWriteSingleAddressRegister REG_AX5043_RADIOEVENTMASK0 fun _ => 0x00,
          act fun r => { r with ubRFState := trxstate_pll_settled }]),
      (trxstate_tx_xtalwait, block
        [tx_begin, TransmitData,
          SpiWriteSingleAddressRegister REG_AX5043_PWRMODE fun _ => AX5043_PWRSTATE_FULL_TX]),
      (trxstate_tx_longpreamble, TransmitData),
      (trxstate_tx_shortpreamble, TransmitData),
      (trxstate_tx_packet, TransmitData),
      (trxstate_tx_waitdone, tx_end)]

end MeterTester
