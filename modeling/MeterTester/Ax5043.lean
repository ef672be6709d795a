import MeterTester.Interleave

/-! # The radio chip and its driver's data: `Radio_Drv.h`, `Radio_Drv.c`, `Config_4068.h`

`Ax5043` is `struct ax5043` together with the statics and the locals of the driver and with the
chip behind the SPI bus.  A register of the chip holds the value last written (`reg`).  The
`status` registers show what the chip pleases: `shows a n` is the reading of register `a`, where
`n b` counts the readings of the status register `b` so far.  What has been written to `FIFODATA`
is kept in `fifo`.

`store` and `load` go by the layout of the struct: a byte stored behind an array lands in the
members that follow it. -/

namespace MeterTester

open Interleave Interleave.Prog

/-! ### Registers, power states, FIFO commands -/

abbrev REG_AX5043_SCRATCH : ℕ := 0x01
abbrev REG_AX5043_PWRMODE : ℕ := 0x02
abbrev REG_AX5043_POWSTICKYSTAT : ℕ := 0x04
abbrev REG_AX5043_IRQMASK1 : ℕ := 0x06
abbrev REG_AX5043_IRQMASK0 : ℕ := 0x07
abbrev REG_AX5043_RADIOEVENTMASK0 : ℕ := 0x09
abbrev REG_AX5043_IRQREQUEST1 : ℕ := 0x0C
abbrev REG_AX5043_IRQREQUEST0 : ℕ := 0x0D
abbrev REG_AX5043_RADIOEVENTREQ0 : ℕ := 0x0F
abbrev REG_AX5043_MODULATION : ℕ := 0x10
abbrev REG_AX5043_FRAMING : ℕ := 0x12
abbrev REG_AX5043_RADIOSTATE : ℕ := 0x1C
abbrev REG_AX5043_XTALSTATUS : ℕ := 0x1D
abbrev REG_AX5043_PINFUNCIRQ : ℕ := 0x24
abbrev REG_AX5043_FIFOSTAT : ℕ := 0x28
abbrev REG_AX5043_FIFODATA : ℕ := 0x29
abbrev REG_AX5043_FIFOFREE1 : ℕ := 0x2C
abbrev REG_AX5043_FIFOFREE0 : ℕ := 0x2D
abbrev REG_AX5043_FIFOTHRESH1 : ℕ := 0x2E
abbrev REG_AX5043_FIFOTHRESH0 : ℕ := 0x2F
abbrev REG_AX5043_PLLLOOP : ℕ := 0x30
abbrev REG_AX5043_PLLCPI : ℕ := 0x31
abbrev REG_AX5043_PLLRANGINGA : ℕ := 0x33
abbrev REG_AX5043_FREQA3 : ℕ := 0x34
abbrev REG_AX5043_FREQA2 : ℕ := 0x35
abbrev REG_AX5043_FREQA1 : ℕ := 0x36
abbrev REG_AX5043_FREQA0 : ℕ := 0x37
abbrev REG_AX5043_PLLRANGINGB : ℕ := 0x3B
abbrev REG_AX5043_FSKDEV2 : ℕ := 0x161
abbrev REG_AX5043_FSKDEV1 : ℕ := 0x162
abbrev REG_AX5043_FSKDEV0 : ℕ := 0x163
abbrev REG_AX5043_PLLVCOI : ℕ := 0x180
abbrev REG_AX5043_PKTADDRCFG : ℕ := 0x200
abbrev REG_AX5043_PKTLENOFFSET : ℕ := 0x202
abbrev REG_AX5043_TMGRXAGC : ℕ := 0x227
abbrev REG_AX5043_TMGRXPREAMBLE1 : ℕ := 0x229
abbrev REG_AX5043_RSSIREFERENCE : ℕ := 0x22C
abbrev REG_AX5043_PKTMISCFLAGS : ℕ := 0x231
abbrev REG_AX5043_PKTSTOREFLAGS : ℕ := 0x232
abbrev REG_AX5043_LPOSCCONFIG : ℕ := 0x310

abbrev AX5043_PWRSTATE_POWERDOWN : UInt8 := 0x0
abbrev AX5043_PWRSTATE_XTAL_ON : UInt8 := 0x5
abbrev AX5043_PWRSTATE_FIFO_ON : UInt8 := 0x7
abbrev AX5043_PWRSTATE_FULL_RX : UInt8 := 0x9
abbrev AX5043_PWRSTATE_FULL_TX : UInt8 := 0xd

abbrev AX5043_FIFOCMD_DATA : UInt8 := 0x01
abbrev AX5043_FIFOCMD_REPEATDATA : UInt8 := 0x02
abbrev AX5043_FIFOCMD_TIMER : UInt8 := 0x10
abbrev AX5043_FIFOCMD_RSSI : UInt8 := 0x11
abbrev AX5043_FIFOCMD_RFFREQOFFS : UInt8 := 0x13
abbrev AX5043_FIFOCMD_ANTRSSI : UInt8 := 0x15

/-! ### The states of the driver -/

abbrev trxstate_off : ℕ := 0x00
abbrev trxstate_rx : ℕ := 0x01
abbrev trxstate_wait_xtal : ℕ := 0x03
abbrev trxstate_xtal_ready : ℕ := 0x04
abbrev trxstate_pll_ranging : ℕ := 0x05
abbrev trxstate_pll_ranging_done : ℕ := 0x06
abbrev trxstate_pll_settling : ℕ := 0x07
abbrev trxstate_pll_settled : ℕ := 0x08
abbrev trxstate_tx_xtalwait : ℕ := 0x09
abbrev trxstate_tx_longpreamble : ℕ := 0x0A
abbrev trxstate_tx_shortpreamble : ℕ := 0x0B
abbrev trxstate_tx_packet : ℕ := 0x0C
abbrev trxstate_tx_waitdone : ℕ := 0x0D

/-! ### The configuration -/

/-- The members of `struct ax5043_config` that the driver reads. -/
structure Ax5043Config where
  axradio_phy_preamble_len : UInt8
  axradio_framing_synclen : UInt8
  axradio_phy_preamble_flags : UInt8
  axradio_phy_preamble_byte : UInt8
  axradio_phy_preamble_appendbits : UInt8
  axradio_phy_preamble_appendpattern : UInt8
  axradio_phy_chanfreq : UInt32
  axradio_phy_chanpllrnginit : UInt8
  axradio_phy_rssioffset : Int8
  axradio_phy_rssireference : Int8
  axradio_framing_syncflags : UInt8
  axradio_framing_syncword : Vector UInt8 4
deriving DecidableEq

def rf_4068_config_init : Ax5043Config where
  axradio_phy_preamble_len := 16
  axradio_phy_preamble_byte := 0x55
  axradio_phy_preamble_flags := 0x38
  axradio_phy_preamble_appendbits := 0
  axradio_phy_preamble_appendpattern := 0x00
  axradio_phy_chanfreq := 0x01908aa3
  axradio_phy_chanpllrnginit := 0xFF
  axradio_phy_rssireference := 0x36
  axradio_phy_rssioffset := 64
  axradio_framing_synclen := 16
  axradio_framing_syncflags := 0x38
  axradio_framing_syncword := #v[0x55, 0x5a, 0x33, 0x55]

/-- A table of registers and their values. -/
abbrev Registers (n : ℕ) := Vector (UInt16 × UInt16) n

def set_registers_4068 : Registers 126 :=
  #v[(0x010, 0x08), (0x011, 0x00), (0x012, 0x06), (0x021, 0x01), (0x022, 0x01), (0x023, 0x01),
    (0x025, 0x01), (0x026, 0x07), (0x06E, 0x01), (0x100, 0x01), (0x101, 0xF8), (0x102, 0x14),
    (0x103, 0x02), (0x104, 0x22), (0x105, 0x37), (0x106, 0x00), (0x107, 0x00), (0x108, 0x00),
    (0x109, 0x80), (0x10A, 0x00), (0x10B, 0x34), (0x10C, 0x0D), (0x10D, 0x97), (0x10E, 0xF2),
    (0x10F, 0x69), (0x115, 0x00), (0x117, 0xF4), (0x120, 0xE8), (0x121, 0x84), (0x124, 0x8C),
    (0x125, 0x86), (0x126, 0xC3), (0x127, 0x0F), (0x128, 0x1F), (0x129, 0x0B), (0x12A, 0x0B),
    (0x12B, 0x06), (0x12C, 0x00), (0x12D, 0x00), (0x12F, 0x00), (0x130, 0xE8), (0x131, 0x84),
    (0x132, 0x00), (0x133, 0x00), (0x134, 0x8A), (0x135, 0x85), (0x136, 0xC3), (0x137, 0x0F),
    (0x138, 0x1F), (0x139, 0x0B), (0x13A, 0x0B), (0x13B, 0x06), (0x13C, 0x01), (0x13D, 0xF0),
    (0x13E, 0x16), (0x13F, 0x00), (0x150, 0xFF), (0x151, 0x84), (0x152, 0x00), (0x153, 0x00),
    (0x154, 0x89), (0x155, 0x84), (0x156, 0xC3), (0x157, 0x0F), (0x158, 0x1F), (0x159, 0x0D),
    (0x15A, 0x0D), (0x15B, 0x06), (0x15C, 0x01), (0x15D, 0xF0), (0x15E, 0x16), (0x15F, 0x00),
    (0x160, 0x00), (0x161, 0x00), (0x162, 0x04), (0x163, 0x27), (0x164, 0x05), (0x165, 0x00),
    (0x166, 0x01), (0x167, 0x80), (0x16A, 0x07), (0x16B, 0x00), (0x180, 0xA2), (0x183, 0x04),
    (0x188, 0x0F), (0x189, 0x77), (0x200, 0x80), (0x201, 0x00), (0x202, 0x10), (0x203, 0xC8),
    (0x210, 0x5A), (0x211, 0xAA), (0x212, 0x00), (0x213, 0x00), (0x214, 0x8F), (0x216, 0x0F),
    (0x218, 0xAA), (0x219, 0xAA), (0x21C, 0x8A), (0x21E, 0x0A), (0x220, 0x3E), (0x221, 0x31),
    (0x223, 0x3E), (0x224, 0x31), (0x225, 0x00), (0x226, 0x7F), (0x228, 0x03), (0x22A, 0x1A),
    (0x22D, 0xE0), (0x22F, 0x00), (0x230, 0x0D), (0x233, 0x20), (0x330, 0x00), (0x331, 0x00),
    (0x332, 0x00), (0xF0D, 0x03), (0xF10, 0x04), (0xF11, 0x00), (0xF1C, 0x07), (0xF21, 0x68),
    (0xF22, 0xFF), (0xF23, 0x84), (0xF26, 0x98), (0xF34, 0x28), (0xF35, 0x11), (0xF44, 0x25)]

def set_registers_tx_4068 : Registers 6 :=
  #v[(0x030, 0x0A), (0x031, 0x10), (0x032, 0x35), (0x184, 0x00), (0xF00, 0x0F), (0xF18, 0x06)]

def set_registers_rx_4068 : Registers 6 :=
  #v[(0x030, 0x0A), (0x031, 0x10), (0x032, 0x35), (0x184, 0x00), (0xF00, 0x0F), (0xF18, 0x06)]

/-! ### The state -/

/-- Where `TransmitData` goes after a turn of its loop. -/
inductive Label where
  | again
  | fifocommit
  | pktend
  | out
deriving DecidableEq

/-- `struct ax5043`, the table `set_registers`, the static counters and the locals of the driver's
functions, and the chip.  `delivered` are the arguments `rf4068_rx_callback` was called with. -/
structure Ax5043 where
  config : Ax5043Config
  ubRssi : ℤ
  ubRFState : ℕ
  TXBuff : Vector UInt8 64
  TxLen : UInt8
  RXBuff : Vector UInt8 64
  RxLen : UInt8
  axradio_phy_chanpllrng : UInt8
  axradio_phy_chanvcoi : UInt8
  axradio_power_now : UInt8
  RegValue : Registers 126
  TXRegValue : Registers 6
  RXRegValue : Registers 6
  axradio_txbuffer_cnt : UInt32
  set_registers : Registers 126
  init_i : ℕ
  tx_i : ℕ
  rx_i : ℕ
  ubAddres : UInt8
  ubTemp : UInt8
  data : UInt8
  irqrequest1 : UInt8
  pllrng : UInt8
  minvcoi : UInt8
  vcoi : UInt8
  range_num : UInt8
  range_oldnum : UInt8
  range_table : Vector UInt8 10
  range_tableold : Vector UInt8 10
  range_i : UInt8
  num : UInt8
  irqrequest0 : UInt8
  radiostate : UInt8
  ubDataLen : UInt8
  ubTemCom : UInt8
  ubTepm : UInt8
  ubFreeCnt : UInt8
  goto : Label
  reg : ℕ → UInt8
  shows : ℕ → (ℕ → ℕ) → UInt8
  reads : ℕ → ℕ
  fifo : List UInt8
  delivered : List (ℤ × Vector UInt8 64 × UInt8)

/-- The registers that do not show what was last written to them. -/
def status : List ℕ :=
  [REG_AX5043_POWSTICKYSTAT, REG_AX5043_IRQREQUEST1, REG_AX5043_IRQREQUEST0,
    REG_AX5043_RADIOEVENTREQ0, REG_AX5043_RADIOSTATE, REG_AX5043_XTALSTATUS, REG_AX5043_FIFODATA,
    REG_AX5043_FIFOFREE1, REG_AX5043_FIFOFREE0, REG_AX5043_PLLRANGINGA]

namespace Ax5043

/-- What a register shows. -/
def shown (r : Ax5043) (a : ℕ) : UInt8 := if a ∈ status then r.shows a r.reads else r.reg a

/-- A register has been read. -/
def seen (r : Ax5043) (a : ℕ) : Ax5043 :=
  if a ∈ status then { r with reads := fun b => if b = a then r.reads a + 1 else r.reads b } else r

def write (r : Ax5043) (a : ℕ) (v : UInt8) : Ax5043 :=
  { r with
    reg := fun b => if b = a then v else r.reg b
    fifo := if a = REG_AX5043_FIFODATA then r.fifo ++ [v] else r.fifo }

/-! ### The members behind the buffers -/

/-- Byte `j` of a table of 16-bit words, the low byte of a word first. -/
def table_byte (t : Registers 126) (j : ℕ) : UInt8 :=
  let row := t.toList.getD (j / 4) (0, 0)
  let word := if j / 2 % 2 = 0 then row.1 else row.2
  if j % 2 = 0 then word.toUInt8 else (word >>> (8 : UInt16)).toUInt8

def set_table_byte (t : Registers 126) (j : ℕ) (b : UInt8) : Registers 126 :=
  let put (word : UInt16) : UInt16 :=
    if j % 2 = 0 then (word &&& (0xFF00 : UInt16)) ||| b.toUInt16
    else (word &&& (0x00FF : UInt16)) ||| (b.toUInt16 <<< (8 : UInt16))
  let row := t.toList.getD (j / 4) (0, 0)
  t.setIfInBounds (j / 4) (if j / 2 % 2 = 0 then (put row.1, row.2) else (row.1, put row.2))

/-- A byte is stored at offset `i` from `TXBuff`. -/
def store (r : Ax5043) (i : ℕ) (b : UInt8) : Ax5043 :=
  if i < 64 then { r with TXBuff := r.TXBuff.setIfInBounds i b }
  else if i < 65 then { r with TxLen := b }
  else if i < 129 then { r with RXBuff := r.RXBuff.setIfInBounds (i - 65) b }
  else if i < 130 then { r with RxLen := b }
  else if i < 131 then { r with axradio_phy_chanpllrng := b }
  else if i < 132 then { r with axradio_phy_chanvcoi := b }
  else if i < 133 then { r with axradio_power_now := b }
  else { r with RegValue := set_table_byte r.RegValue (i - 133) b }

/-- The byte at offset `i` from `TXBuff`. -/
def load (r : Ax5043) (i : ℕ) : UInt8 :=
  if i < 64 then r.TXBuff.toList.getD i 0
  else if i < 65 then r.TxLen
  else if i < 129 then r.RXBuff.toList.getD (i - 65) 0
  else if i < 130 then r.RxLen
  else if i < 131 then r.axradio_phy_chanpllrng
  else if i < 132 then r.axradio_phy_chanvcoi
  else if i < 133 then r.axradio_power_now
  else table_byte r.RegValue (i - 133)

/-- Where `RXBuff` lies. -/
def RXBuff_offset : ℕ := 65

/-- The driver when the power comes on: the statics are zero. -/
def start (shows : ℕ → (ℕ → ℕ) → UInt8) : Ax5043 where
  config := ⟨0, 0, 0, 0, 0, 0, 0, 0, 0, 0, 0, Vector.replicate 4 0⟩
  ubRssi := 0
  ubRFState := trxstate_off
  TXBuff := Vector.replicate 64 0
  TxLen := 0
  RXBuff := Vector.replicate 64 0
  RxLen := 0
  axradio_phy_chanpllrng := 0
  axradio_phy_chanvcoi := 0
  axradio_power_now := 0
  RegValue := Vector.replicate 126 (0, 0)
  TXRegValue := Vector.replicate 6 (0, 0)
  RXRegValue := Vector.replicate 6 (0, 0)
  axradio_txbuffer_cnt := 0
  set_registers := set_registers_4068
  init_i := 0
  tx_i := 0
  rx_i := 0
  ubAddres := 0
  ubTemp := 0
  data := 0
  irqrequest1 := 0
  pllrng := 0
  minvcoi := 0
  vcoi := 0
  range_num := 0
  range_oldnum := 0
  range_table := Vector.replicate 10 0
  range_tableold := Vector.replicate 10 0
  range_i := 0
  num := 0
  irqrequest0 := 0
  radiostate := 0
  ubDataLen := 0
  ubTemCom := 0
  ubTepm := 0
  ubFreeCnt := 0
  goto := .again
  reg := fun _ => 0
  shows := shows
  reads := fun _ => 0
  fifo := []
  delivered := []

end Ax5043

/-! ### Transfers -/

/-- A register is written with a value computed from the state. -/
def SpiWriteSingleAddressRegister (Addr : ℕ) (Data : Ax5043 → UInt8) : Prog Ax5043 :=
  act fun r => r.write (Addr % 0x80) (Data r)

def SpiWriteLongAddressRegister (Addr : Ax5043 → ℕ) (Data : Ax5043 → UInt8) : Prog Ax5043 :=
  act fun r => r.write (Addr r % 0x1000) (Data r)

/-- A register is read; `k` says what becomes of the reading. -/
def SpiReadSingleAddressRegister (Addr : ℕ) (k : Ax5043 → UInt8 → Ax5043) : Prog Ax5043 :=
  act fun r => k (r.seen (Addr % 0x80)) (r.shown (Addr % 0x80))

def SpiReadLongAddressRegister (Addr : ℕ) (k : Ax5043 → UInt8 → Ax5043) : Prog Ax5043 :=
  act fun r => k (r.seen (Addr % 0x1000)) (r.shown (Addr % 0x1000))

/-- `Length` bytes of the struct, from offset `pBuf` on, are written to the FIFO. -/
def SpiWriteData (pBuf : ℕ) (Length : UInt8) (r : Ax5043) : Ax5043 :=
  (List.range Length.toNat).foldl (fun r i => r.write REG_AX5043_FIFODATA (r.load (pBuf + i))) r

/-- `Length` bytes of the FIFO are stored in the struct, from offset `pBuf` on. -/
def SpiReadData (pBuf : ℕ) (Length : UInt8) (r : Ax5043) : Ax5043 :=
  (List.range Length.toNat).foldl (fun r i =>
    (r.seen REG_AX5043_FIFODATA).store (pBuf + i) (r.shown REG_AX5043_FIFODATA)) r

def Ax5043_Spi_Reset : Prog Ax5043 := block
  [act fun r => r.write REG_AX5043_PWRMODE 0x80,
    act fun r => r.write REG_AX5043_PWRMODE 0x00]

end MeterTester
