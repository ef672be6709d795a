import MeterTester.Glyphs
import MeterTester.Picture
import MeterTester.SyncSerial

/-! # The display: `LCD_19264.c`

Every function of the file ends in calls of `WriteData`, which sends a byte over four wires, as a command
(`C = 0`) or as data.  A function is the list of its calls, or `none` when it would read behind the end
of a table.

The display has a memory of eight pages of `192` bytes.  A command sets the page or one half of the
column, and a byte of data goes where they point to and moves the column on.  What the memory does behind
its last column is left open (`wrap`). -/

namespace MeterTester

open SyncSerial Picture

/-- One call of `WriteData(data, C)`. -/
structure LcdCall where
  data : UInt8
  C : UInt8
  deriving DecidableEq

/-- `dat<<=1` after each of the bits. -/
def send_bits : ℕ → UInt8 → List (Wire × Bool)
  | 0, _ => []
  | i + 1, dat =>
      (.data, dat &&& 0x80 = 0x80) :: (.clock, false) :: (.clock, true) :: send_bits i (dat <<< 1)

def WriteData (c : LcdCall) : List (Wire × Bool) :=
  (.select, false) :: (.kind, c.C = 1) :: send_bits 8 c.data ++ [(.select, true)]

/-! ### Drawing -/

/-- The calls of a function, if it stays within its tables. -/
abbrev Out := Option (List LcdCall)

def Out.seq (o o' : Out) : Out := o.bind fun cs => o'.map (cs ++ ·)

def Out.all (os : List Out) : Out := os.foldr Out.seq (some [])

/-- One turn of the outer loop of `Dispgraphic`. -/
def blank_page (D : UInt8) (i : ℕ) : List LcdCall :=
  ⟨0x40, 0⟩ :: ⟨0xb0 ||| UInt8.ofNat i, 0⟩ :: ⟨0x10, 0⟩ :: ⟨0x00, 0⟩ :: List.replicate 192 ⟨D, 1⟩

def Dispgraphic (D : UInt8) : List LcdCall := (List.range 8).flatMap (blank_page D)

/-- One page of a glyph; `i` and `j` are those of the source less one, and the index of the glyph is
`j + width * i.rev`. -/
def page_calls (pages width : ℕ) (glyph : Vector UInt8 (pages * width)) (y l reverse : UInt8)
    (i : Fin pages) : List LcdCall :=
  ⟨(0xb0 ||| UInt8.ofNat i.1) + y, 0⟩ :: ⟨(0x10 : UInt8) + (l >>> 4 &&& 0x0f), 0⟩ :: ⟨l &&& 0x0f, 0⟩ ::
    (List.finRange width).reverse.map fun j =>
      let b := glyph.get (finProdFinEquiv (i.rev, j))
      ⟨if reverse = 0 then b else ~~~b, 1⟩

/-- The body of the four functions that draw a glyph. -/
def glyph_calls (pages width : ℕ) (glyph : Vector UInt8 (pages * width)) (y l reverse : UInt8) :
    List LcdCall :=
  (List.finRange pages).reverse.flatMap
    (page_calls pages width glyph (UInt8.ofNat (8 - pages) - y) (UInt8.ofNat (192 - width) - l) reverse)

def lcd_number (y l k reverse : UInt8) : Out :=
  (sz[k.toNat]?).map fun glyph => glyph_calls 2 8 glyph y l reverse

def lcd_show16_32 (y l k : UInt8) : Out :=
  (zm16_32[k.toNat]?).map fun glyph => glyph_calls 4 16 glyph y l 0

def lcd_show6_8 (y l k reverse : UInt8) : Out :=
  (zm6_8[k.toNat]?).map fun glyph => glyph_calls 1 6 glyph y l reverse

def lcd_chinese (y l k reverse : UInt8) : Out :=
  (hz[k.toNat]?).map fun glyph => glyph_calls 2 16 glyph y l reverse

/-- The loop of the functions that draw a row of glyphs. -/
def side_by_side {α : Type} (draw : ℕ → α → UInt8 → Out) (width : α → UInt8) (l : UInt8) :
    ℕ → UInt8 → List α → Out
  | _, _, [] => some []
  | i, Centered, a :: as =>
      (draw i a (l + Centered)).seq (side_by_side draw width l (i + 1) (Centered + width a) as)

/-- The place of a character in a table; an unknown one is taken for the first. -/
def find_zf (table : List UInt8) (data : UInt8) : UInt8 :=
  UInt8.ofNat ((table.findIdx? (· = data)).getD 0)

def get_zf68_number (data : UInt8) : UInt8 := find_zf my_zf6_8 data

def get_zf_number (data : UInt8) : UInt8 := find_zf my_szzf_list data

def lcd_show_zf6_8 (y l : UInt8) (data : List UInt8) : Out :=
  side_by_side (fun _ c l => lcd_show6_8 y l (get_zf68_number c) 0) (fun _ => 6) l 0 0 data

def lcd_show_zf_time (y l : UInt8) (data : List UInt8) (reverse : UInt8) : Out :=
  side_by_side (fun i c l => lcd_show6_8 y l (get_zf68_number c)
    (if i ≠ 2 + reverse.toNat + reverse.toNat / 2 then 0 else 1)) (fun _ => 6) l 0 0 data

def lcd_show_zf (y l : UInt8) (data : List UInt8) : Out :=
  side_by_side (fun _ c l => lcd_number y l (get_zf_number c) 0) (fun _ => 8) l 0 0 data

/-- Where a row of characters starts that stands in the middle. -/
def centred (cells : List UInt8) : UInt8 :=
  let half := cells.foldl (fun Centered k => if k < 100 then Centered + 8 else Centered + 4) 0
  if half < 96 then 96 - half else 0

def lcd_show (y l : UInt8) (list : List UInt8) (len reverse : UInt8) : Out :=
  ((List.range len.toNat).mapM fun i => list[i + 1]?).bind fun cells =>
    let inverted (i : ℕ) : UInt8 :=
      if 10 ≤ reverse ∧ reverse.toNat - 10 = i ∨ reverse = 1 then 1 else 0
    side_by_side
      (fun i k l => if k < 100 then lcd_chinese y l k (inverted i) else lcd_number y l (k - 100) (inverted i))
      (fun k => if k < 100 then 16 else 8) (if l = 200 then centred cells else l) 0 0 cells

def IC : List UInt8 := [0xe2, 0xa3, 0xeb, 0x2f, 0xc2, 0x81, 180, 0xaf]

def Init_lcd : List LcdCall := IC.map (⟨·, 0⟩) ++ Dispgraphic 0x00

/-! ### The memory of the display -/

structure Panel where
  ram : ℕ → ℕ → UInt8
  page : ℕ
  column : ℕ
  /-- the next byte of a command is the contrast -/
  contrast : Bool

namespace Panel

def command (s : Panel) (b : UInt8) : Panel :=
  if s.contrast then { s with contrast := false }
  else if b = 0x81 then { s with contrast := true }
  else if b &&& 0xf0 = 0xb0 then { s with page := (b &&& 0x0f).toNat }
  else if b &&& 0xf0 = 0x10 then { s with column := (b &&& 0x0f).toNat * 16 + s.column % 16 }
  else if b &&& 0xf0 = 0x00 then { s with column := s.column / 16 * 16 + (b &&& 0x0f).toNat }
  else s

def data (wrap : ℕ → ℕ × ℕ) (s : Panel) (b : UInt8) : Panel :=
  let s' := { s with ram := fun p c => if p = s.page ∧ c = s.column then b else s.ram p c }
  if s.column + 1 < 192 then { s' with column := s.column + 1 }
  else { s' with page := (wrap s.page).1, column := (wrap s.page).2 }

/-- A word that has come over the wires. -/
def word (wrap : ℕ → ℕ × ℕ) (s : Panel) (w : Bool × List Bool) : Panel :=
  let b := UInt8.ofNat (w.2.foldl (fun n b => 2 * n + b.toNat) 0)
  if w.1 then s.data wrap b else s.command b

/-- The display hung upside down: what is seen at a page from the top and a column from the left. -/
def view (s : Panel) : Fin 8 × Fin 192 → UInt8 := fun i => s.ram i.1.rev i.2.rev

/-- The display after what happened on its wires, which were at any level before. -/
def after (wrap : ℕ → ℕ × ℕ) (level : Wire → Bool) (s : Panel) (xs : List (Wire × Bool)) : Panel :=
  ((Receiver.mk level [] []).run 8 xs).received.foldl (word wrap) s

end Panel

end MeterTester
