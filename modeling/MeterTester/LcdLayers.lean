import MeterTester.Lcd

/-! # What the display shows

The wires carry the calls of `WriteData` to the memory of the display without loss (`after_calls`), and
what a function draws is a list of layers over what was seen before (`Out.Draws`), whatever the wires, the
address and the rest of the memory were like.  A glyph is one rectangle, a row of characters stands side
by side, and a row that `lcd_show` places in the middle has equal margins (`lcd_show_draws`). -/

namespace MeterTester

open SyncSerial Picture

/-! ### The wires -/

/-- The bits of a byte, the highest first. -/
def byte_bits (b : UInt8) : List Bool := (List.finRange 8).map fun i => b.toNat.testBit i.rev.1

theorem forall_byte {P : UInt8 → Prop} (h : ∀ n : Fin 256, P (UInt8.ofNat n.1)) (b : UInt8) : P b := by
  have hb := h ⟨b.toNat, b.toNat_lt⟩
  rwa [UInt8.ofNat_toNat] at hb

/-- The bits that are sent. -/
def sent_bits : ℕ → UInt8 → List Bool
  | 0, _ => []
  | i + 1, dat => (dat &&& 0x80 = 0x80) :: sent_bits i (dat <<< 1)

theorem send_bits_flatMap (i : ℕ) (dat : UInt8) : send_bits i dat = (sent_bits i dat).flatMap bit := by
  induction i generalizing dat with
  | zero => rfl
  | succ i ih =>
      rw [send_bits, sent_bits, List.flatMap_cons, ih]
      rfl

theorem send_bits_eq (b : UInt8) : send_bits 8 b = (byte_bits b).flatMap bit := by
  have hbits : sent_bits 8 b = byte_bits b := by
    revert b
    apply forall_byte
    decide +kernel
  rw [send_bits_flatMap, hbits]

theorem WriteData_eq (c : LcdCall) : WriteData c = word (c.C = 1) (byte_bits c.data) := by
  rw [WriteData, send_bits_eq, word]

theorem byte_of_bits (b : UInt8) :
    UInt8.ofNat ((byte_bits b).foldl (fun n b => 2 * n + b.toNat) 0) = b := by
  revert b
  apply forall_byte
  decide +kernel

namespace Panel
variable {wrap : ℕ → ℕ × ℕ} {s : Panel}

def call (wrap : ℕ → ℕ × ℕ) (s : Panel) (c : LcdCall) : Panel :=
  if c.C = 1 then s.data wrap c.data else s.command c.data

def run (wrap : ℕ → ℕ × ℕ) (cs : List LcdCall) (s : Panel) : Panel := cs.foldl (call wrap) s

theorem run_append (cs ds : List LcdCall) (s : Panel) :
    s.run wrap (cs ++ ds) = (s.run wrap cs).run wrap ds := List.foldl_append

/-- **The calls arrive**, whatever level the wires were at. -/
theorem after_calls (level : Wire → Bool) (s : Panel) (cs : List LcdCall) :
    s.after wrap level (cs.flatMap WriteData) = s.run wrap cs := by
  have hwords : cs.flatMap WriteData =
      (cs.map fun c => (decide (c.C = 1), byte_bits c.data)).flatMap fun w => SyncSerial.word w.1 w.2 := by
    rw [List.flatMap_map]
    exact List.flatMap_congr fun c _ => WriteData_eq c
  have hreceived := (received_words (n := 8) (by decide)
    (cs.map fun c => (decide (c.C = 1), byte_bits c.data)) (by simp [byte_bits])
    (r := ⟨level, [], []⟩) rfl).2
  rw [after, hwords, hreceived, List.nil_append, List.foldl_map, run]
  congr 1
  funext s c
  simp only [Panel.word, byte_of_bits, call, decide_eq_true_iff]

/-! ### The memory -/

theorem data_ram (s : Panel) (b : UInt8) (p c : ℕ) :
    (s.data wrap b).ram p c = if p = s.page ∧ c = s.column then b else s.ram p c := by
  unfold data
  dsimp only
  by_cases hs : s.column + 1 < 192
  · rw [if_pos hs]
  · rw [if_neg hs]

theorem data_contrast (s : Panel) (b : UInt8) : (s.data wrap b).contrast = s.contrast := by
  unfold data
  dsimp only
  split_ifs <;> rfl

theorem data_address (wrap : ℕ → ℕ × ℕ) {s : Panel} (b : UInt8) (hs : s.column + 1 < 192) :
    (s.data wrap b).page = s.page ∧ (s.data wrap b).column = s.column + 1 := by
  unfold data
  dsimp only
  rw [if_pos hs]
  exact ⟨rfl, rfl⟩

/-- Bytes of data go side by side. -/
theorem run_data (wrap : ℕ → ℕ × ℕ) (bs : List UInt8) {s : Panel} (hs : s.column + bs.length ≤ 192) :
    (s.run wrap (bs.map (⟨·, 1⟩))).contrast = s.contrast ∧
      ∀ p c, (s.run wrap (bs.map (⟨·, 1⟩))).ram p c =
        if p = s.page ∧ s.column ≤ c then bs.getD (c - s.column) (s.ram p c) else s.ram p c := by
  induction bs generalizing s with
  | nil => exact ⟨rfl, fun p c => by simp [run]⟩
  | cons b bs ih =>
      rw [List.length_cons] at hs
      have hrun : s.run wrap ((b :: bs).map (⟨·, 1⟩)) = (s.data wrap b).run wrap (bs.map (⟨·, 1⟩)) := rfl
      rw [hrun]
      cases bs with
      | nil =>
          refine ⟨data_contrast s b, fun p c => ?_⟩
          show (s.data wrap b).ram p c = _
          rw [data_ram]
          by_cases hc : p = s.page ∧ s.column ≤ c
          · obtain ⟨k, rfl⟩ := Nat.exists_eq_add_of_le hc.2
            rw [if_pos hc, Nat.add_sub_cancel_left]
            cases k with
            | zero => rw [if_pos ⟨hc.1, rfl⟩, List.getD_cons_zero]
            | succ k => rw [if_neg (by omega), List.getD_cons_succ, List.getD_nil]
          · rw [if_neg hc, if_neg (by omega)]
      | cons b' bs =>
          obtain ⟨hpage, hcolumn⟩ := data_address wrap b
            (show s.column + 1 < 192 by rw [List.length_cons] at hs; omega)
          obtain ⟨hcontrast, hram⟩ := ih (s := s.data wrap b) (by rw [hcolumn]; omega)
          refine ⟨hcontrast.trans (data_contrast s b), fun p c => ?_⟩
          rw [hram, hpage, hcolumn, data_ram]
          by_cases hc : p = s.page ∧ s.column ≤ c
          · obtain ⟨k, rfl⟩ := Nat.exists_eq_add_of_le hc.2
            rw [if_pos hc, Nat.add_sub_cancel_left]
            cases k with
            | zero => rw [if_neg (by omega), if_pos ⟨hc.1, rfl⟩, List.getD_cons_zero]
            | succ k =>
                rw [if_pos (by omega), if_neg (by omega), List.getD_cons_succ,
                  show s.column + (k + 1) - (s.column + 1) = k by omega]
          · rw [if_neg hc, if_neg (by omega), if_neg (by omega)]

theorem page_byte (i y : Fin 8) (h : i.1 + y.1 < 8) :
    let b := (0xb0 ||| UInt8.ofNat i.1) + UInt8.ofNat y.1
    b ≠ 0x81 ∧ b &&& 0xf0 = 0xb0 ∧ (b &&& 0x0f).toNat = i.1 + y.1 := by
  revert i y
  decide

theorem column_bytes (l : UInt8) :
    let high := (0x10 : UInt8) + (l >>> 4 &&& 0x0f)
    let low := l &&& 0x0f
    (high ≠ 0x81 ∧ high &&& 0xf0 = 0x10 ∧ (high &&& 0x0f).toNat = l.toNat / 16) ∧
      low ≠ 0x81 ∧ low &&& 0xf0 = 0x00 ∧ (low &&& 0x0f).toNat = l.toNat % 16 := by
  revert l
  apply forall_byte
  decide +kernel

theorem command_page {b : UInt8} (h : b ≠ 0x81) (hb : b &&& 0xf0 = 0xb0) (hs : s.contrast = false) :
    s.command b = { s with page := (b &&& 0x0f).toNat } := by
  rw [command, if_neg (by rw [hs]; decide), if_neg h, if_pos hb]

theorem command_high {b : UInt8} (h : b ≠ 0x81) (hb : b &&& 0xf0 = 0x10) (hs : s.contrast = false) :
    s.command b = { s with column := (b &&& 0x0f).toNat * 16 + s.column % 16 } := by
  rw [command, if_neg (by rw [hs]; decide), if_neg h, if_neg (by rw [hb]; decide), if_pos hb]

theorem command_low {b : UInt8} (h : b ≠ 0x81) (hb : b &&& 0xf0 = 0x00) (hs : s.contrast = false) :
    s.command b = { s with column := s.column / 16 * 16 + (b &&& 0x0f).toNat } := by
  rw [command, if_neg (by rw [hs]; decide), if_neg h, if_neg (by rw [hb]; decide),
    if_neg (by rw [hb]; decide), if_pos hb]

/-- The three commands in front of a row of data. -/
theorem run_address (wrap : ℕ → ℕ × ℕ) (hs : s.contrast = false) (i y : Fin 8) (h : i.1 + y.1 < 8) (l : UInt8) :
    s.run wrap [⟨(0xb0 ||| UInt8.ofNat i.1) + UInt8.ofNat y.1, 0⟩, ⟨(0x10 : UInt8) + (l >>> 4 &&& 0x0f), 0⟩,
      ⟨l &&& 0x0f, 0⟩] = { s with page := i.1 + y.1, column := l.toNat } := by
  obtain ⟨hp, hp', hpage⟩ := page_byte i y h
  obtain ⟨⟨hh, hh', hhigh⟩, hl, hl', hlow⟩ := column_bytes l
  have hrun : ∀ b₁ b₂ b₃ : UInt8, s.run wrap [⟨b₁, 0⟩, ⟨b₂, 0⟩, ⟨b₃, 0⟩] =
      ((s.command b₁).command b₂).command b₃ := fun _ _ _ => rfl
  have hcolumn : (l.toNat / 16 * 16 + s.column % 16) / 16 * 16 + l.toNat % 16 = l.toNat := by omega
  rw [hrun, command_page hp hp' hs, command_high hh hh', command_low hl hl', hpage, hhigh, hlow]
  · simp only [hcolumn]
  · exact hs
  · exact hs

/-- Calls that paint one layer after the other. -/
theorem run_flatMap {α : Type} {f : α → List LcdCall} (layer : α → Layer (Fin 8 × Fin 192) UInt8)
    (is : List α) (h : ∀ i ∈ is, ∀ s : Panel, s.contrast = false →
      (s.run wrap (f i)).contrast = false ∧ (s.run wrap (f i)).view = (layer i).on s.view)
    (hs : s.contrast = false) :
    (s.run wrap (is.flatMap f)).contrast = false ∧
      (s.run wrap (is.flatMap f)).view = paint (is.map layer) s.view := by
  induction is generalizing s with
  | nil => exact ⟨hs, rfl⟩
  | cons i is ih =>
      obtain ⟨hcontrast, hview⟩ := h i List.mem_cons_self s hs
      have hrest := ih (fun j hj => h j (List.mem_cons_of_mem i hj)) hcontrast
      rw [List.flatMap_cons, run_append, List.map_cons, paint_cons, ← hview]
      exact hrest

end Panel

/-! ### Glyphs -/

section glyphs
variable {pages width : ℕ} (glyph : Vector UInt8 (pages * width)) (reverse : UInt8)

/-- The bytes of a glyph from the top and from the left. -/
def ink (r c : ℕ) : UInt8 :=
  if h : r < pages ∧ c < width then
    let b := glyph.get (finProdFinEquiv (⟨r, h.1⟩, ⟨c, h.2⟩))
    if reverse = 0 then b else ~~~b
  else 0

theorem ink_get (r : Fin pages) (c : Fin width) : ink glyph reverse r c =
    if reverse = 0 then glyph.get (finProdFinEquiv (r, c)) else ~~~glyph.get (finProdFinEquiv (r, c)) :=
  dif_pos ⟨r.2, c.2⟩

/-- The bytes of a glyph as one number. -/
def glyph_code {n : ℕ} (glyph : Vector UInt8 n) : ℕ := glyph.toList.foldl (fun code b => 256 * code + b.toNat) 0

/-- A glyph can be read off its picture. -/
theorem ink_inj {glyph glyph' : Vector UInt8 (pages * width)}
    (h : ∀ r < pages, ∀ c < width, ink glyph 0 r c = ink glyph' 0 r c) : glyph = glyph' := by
  refine Vector.ext fun i hi => ?_
  obtain ⟨⟨r, c⟩, hrc⟩ := finProdFinEquiv.surjective (⟨i, hi⟩ : Fin (pages * width))
  have hcell := h r r.2 c c.2
  rw [ink_get, ink_get, if_pos rfl, if_pos rfl, hrc] at hcell
  exact hcell

/-- Where a byte of a row stands that is written from the right. -/
theorem getD_reverse (f : ℕ → UInt8) {k : ℕ} (hk : k < width) (d : UInt8) :
    (((List.finRange width).reverse.map fun j : Fin width => f j).getD k d) = f (width - 1 - k) := by
  rw [List.getD_eq_getElem _ _ (by simpa using hk)]
  simp [List.getElem_reverse]

theorem sub_toNat {a : ℕ} (ha : a < 256) {y : UInt8} (hy : y.toNat ≤ a) :
    (UInt8.ofNat a - y).toNat = a - y.toNat := by
  have hle : y ≤ UInt8.ofNat a := by
    rw [UInt8.le_iff_toNat_le, UInt8.toNat_ofNat_of_lt' ha]
    exact hy
  rw [UInt8.toNat_sub_of_le _ _ hle, UInt8.toNat_ofNat_of_lt' ha]

/-- One page of a glyph is seen as one row. -/
theorem run_page {wrap : ℕ → ℕ × ℕ} {s : Panel} (hs : s.contrast = false) {y l : UInt8}
    (hy : y.toNat + pages ≤ 8) (hl : l.toNat + width ≤ 192) (i : Fin pages) :
    let s' := s.run wrap (page_calls pages width glyph (UInt8.ofNat (8 - pages) - y)
      (UInt8.ofNat (192 - width) - l) reverse i)
    s'.contrast = false ∧
      s'.view = (rect (y.toNat + i.rev) l.toNat 1 width fun _ c => ink glyph reverse i.rev c).on s.view := by
  have hi := i.2
  have hrev : i.rev.1 = pages - 1 - i.1 := by rw [Fin.val_rev]; omega
  have hy' := sub_toNat (a := 8 - pages) (by omega) (y := y) (by omega)
  have hl' := sub_toNat (a := 192 - width) (by omega) (y := l) (by omega)
  generalize UInt8.ofNat (8 - pages) - y = y' at hy'
  generalize UInt8.ofNat (192 - width) - l = l' at hl'
  let bs := (List.finRange width).reverse.map fun j : Fin width => ink glyph reverse i.rev j
  have hcalls : page_calls pages width glyph y' l' reverse i =
      [⟨(0xb0 ||| UInt8.ofNat i.1) + UInt8.ofNat y'.toNat, 0⟩, ⟨(0x10 : UInt8) + (l' >>> 4 &&& 0x0f), 0⟩,
        ⟨l' &&& 0x0f, 0⟩] ++ bs.map (⟨·, 1⟩) := by
    rw [UInt8.ofNat_toNat, List.map_map]
    simp only [page_calls, ink_get]
    rfl
  have haddress := Panel.run_address wrap hs ⟨i.1, by omega⟩ ⟨y'.toNat, by omega⟩
    (by show i.1 + y'.toNat < 8; omega) l'
  have hlength : bs.length = width := by simp [bs]
  obtain ⟨hcontrast, hram⟩ := Panel.run_data wrap bs
    (s := { s with page := i.1 + y'.toNat, column := l'.toNat }) (by show l'.toNat + bs.length ≤ 192; omega)
  simp only at hcontrast hram
  rw [hcalls, Panel.run_append, haddress]
  refine ⟨hcontrast.trans hs, ?_⟩
  funext x
  obtain ⟨p, c⟩ := x
  have hp := p.2
  have hc := c.2
  simp only [Panel.view, hram, Fin.val_rev p, Fin.val_rev c]
  by_cases hrow : p.1 = y.toNat + i.rev.1 ∧ l.toNat ≤ c.1 ∧ c.1 < l.toNat + width
  · rw [if_pos (by omega), getD_reverse _ (by omega),
      Layer.on_of_some (rect_of_mem (r := 0) (c := c.1 - l.toNat) _ (by omega) (by omega) hrow.1
        (by show c.1 = _; omega))]
    congr 1
    omega
  · rw [Layer.on_of_none (rect_of_not_mem _ (by show _ ∨ _; simp only; omega))]
    split_ifs with hmem
    · rw [List.getD_eq_default _ _ (by omega)]
      rfl
    · rfl

/-- A glyph with its upper left corner at page `y` and column `l`. -/
def glyph_layer (y l : ℕ) : Layer (Fin 8 × Fin 192) UInt8 := rect y l pages width (ink glyph reverse)

/-- **A glyph is seen as one rectangle.** -/
theorem run_glyph {wrap : ℕ → ℕ × ℕ} {s : Panel} (hs : s.contrast = false) {y l : UInt8}
    (hy : y.toNat + pages ≤ 8) (hl : l.toNat + width ≤ 192) :
    let s' := s.run wrap (glyph_calls pages width glyph y l reverse)
    s'.contrast = false ∧ s'.view = (glyph_layer glyph reverse y.toNat l.toNat).on s.view := by
  obtain ⟨hcontrast, hview⟩ := Panel.run_flatMap _ (List.finRange pages).reverse
    (fun i _ s hs => run_page glyph reverse hs hy hl i) hs
  refine ⟨hcontrast, hview.trans (paint_rows (f := fun i : Fin pages => i.rev.1) _ ?_ ?_ _)⟩
  · exact (List.nodup_reverse.mpr (List.nodup_finRange pages)).map fun i j h => Fin.rev_injective (Fin.ext h)
  · intro r
    rw [List.mem_map]
    constructor
    · rintro ⟨i, -, rfl⟩
      exact i.rev.2
    · exact fun hr => ⟨Fin.rev ⟨r, hr⟩, by simp, by rw [Fin.rev_rev]⟩

end glyphs

/-! ### Functions and what they paint -/

/-- The function stays within its tables, and it paints the boxes, whatever the wires and the memory
were like. -/
def Out.Draws (o : Out) (xs : List (Placed UInt8)) : Prop :=
  ∃ cs, o = some cs ∧ ∀ (wrap : ℕ → ℕ × ℕ) (level : Wire → Bool) (s : Panel), s.contrast = false →
    (s.after wrap level (cs.flatMap WriteData)).contrast = false ∧
      (s.after wrap level (cs.flatMap WriteData)).view = paint (xs.map layer) s.view

namespace Out
variable {o o' : Out} {xs ys : List (Placed UInt8)}

theorem Draws.nil : Out.Draws (some []) [] := ⟨[], rfl, fun _ _ _ hs => ⟨hs, rfl⟩⟩

theorem Draws.seq (h : o.Draws xs) (h' : o'.Draws ys) : (o.seq o').Draws (xs ++ ys) := by
  obtain ⟨cs, rfl, hcs⟩ := h
  obtain ⟨ds, rfl, hds⟩ := h'
  refine ⟨cs ++ ds, rfl, fun wrap level s hs => ?_⟩
  obtain ⟨hcontrast, hview⟩ := hcs wrap level s hs
  obtain ⟨hcontrast', hview'⟩ := hds wrap level _ hcontrast
  simp only [Panel.after_calls] at *
  rw [Panel.run_append, List.map_append, paint_append, ← hview]
  exact ⟨hcontrast', hview'⟩

theorem draws_glyph {pages width : ℕ} (glyph : Vector UInt8 (pages * width)) (reverse : UInt8) {y l : UInt8}
    (hy : y.toNat + pages ≤ 8) (hl : l.toNat + width ≤ 192) :
    Out.Draws (some (glyph_calls pages width glyph y l reverse))
      [(⟨y.toNat, l.toNat, pages, width⟩, ink glyph reverse)] := by
  refine ⟨_, rfl, fun wrap level s hs => ?_⟩
  rw [Panel.after_calls]
  exact run_glyph glyph reverse hs hy hl

/-- The steps of a longer function. -/
theorem draws_all {α : Type} (as : List α) (out : α → Out)
    (placed : α → List (Placed UInt8)) (h : ∀ a ∈ as, (out a).Draws (placed a)) :
    (Out.all (as.map out)).Draws (as.flatMap placed) := by
  induction as with
  | nil => exact .nil
  | cons a as ih =>
      rw [List.map_cons, Out.all, List.foldr_cons, List.flatMap_cons]
      exact (h a List.mem_cons_self).seq (ih fun b hb => h b (List.mem_cons_of_mem a hb))

/-- Glyphs of one height side by side. -/
theorem draws_side_by_side {α : Type} {draw : ℕ → α → UInt8 → Out} {width : α → UInt8} {y h : ℕ}
    {cell : ℕ → α → ℕ → ℕ → UInt8} {l : UInt8} (as : List α)
    (hdraw : ∀ i, ∀ a ∈ as, ∀ l : UInt8, l.toNat + (width a).toNat ≤ 192 →
      (draw i a l).Draws [(⟨y, l.toNat, h, (width a).toNat⟩, cell i a)]) (i : ℕ) (Centered : UInt8)
    (hfit : l.toNat + Centered.toNat + (as.map fun a => (width a).toNat).sum ≤ 192) :
    (side_by_side draw width l i Centered as).Draws
      (strip y h (l.toNat + Centered.toNat) ((as.zipIdx i).map fun x => ((width x.1).toNat, cell x.2 x.1))) := by
  induction as generalizing i Centered with
  | nil => exact .nil
  | cons a as ih =>
      rw [List.map_cons, List.sum_cons] at hfit
      have hl : (l + Centered).toNat = l.toNat + Centered.toNat := by
        rw [UInt8.toNat_add, Nat.mod_eq_of_lt (by omega)]
      have hc : (Centered + width a).toNat = Centered.toNat + (width a).toNat := by
        rw [UInt8.toNat_add, Nat.mod_eq_of_lt (by omega)]
      have hfirst := hdraw i a List.mem_cons_self (l + Centered) (by omega)
      have hrest := ih (fun i b hb => hdraw i b (List.mem_cons_of_mem a hb)) (i + 1)
        (Centered + width a) (by omega)
      rw [hl] at hfirst
      rw [hc, ← Nat.add_assoc] at hrest
      exact hfirst.seq hrest

end Out

/-! ### The four glyphs and the rows of them -/

/-- What is seen of a glyph. -/
def sz_ink (k reverse : UInt8) : ℕ → ℕ → UInt8 := @ink 2 8 (sz.getD k.toNat (.replicate 16 0)) reverse
def hz_ink (k reverse : UInt8) : ℕ → ℕ → UInt8 := @ink 2 16 (hz.getD k.toNat (.replicate 32 0)) reverse
def zm6_8_ink (k reverse : UInt8) : ℕ → ℕ → UInt8 := @ink 1 6 (zm6_8.getD k.toNat (.replicate 6 0)) reverse
def zm16_32_ink (k : UInt8) : ℕ → ℕ → UInt8 := @ink 4 16 (zm16_32.getD k.toNat (.replicate 64 0)) 0

/-- A glyph of a table. -/
theorem draws_table {pages width : ℕ} (table : List (Vector UInt8 (pages * width)))
    (default : Vector UInt8 (pages * width)) {k y l : UInt8} (hk : k.toNat < table.length) (reverse : UInt8)
    (hy : y.toNat + pages ≤ 8) (hl : l.toNat + width ≤ 192) :
    Out.Draws ((table[k.toNat]?).map fun glyph => glyph_calls pages width glyph y l reverse)
      [(⟨y.toNat, l.toNat, pages, width⟩, ink (table.getD k.toNat default) reverse)] := by
  rw [List.getElem?_eq_getElem hk, Option.map_some, List.getD_eq_getElem _ _ hk]
  exact Out.draws_glyph _ reverse hy hl

theorem lcd_number_draws {y l k : UInt8} (reverse : UInt8) (hk : k.toNat < 47) (hy : y.toNat ≤ 6)
    (hl : l.toNat + 8 ≤ 192) :
    (lcd_number y l k reverse).Draws [(⟨y.toNat, l.toNat, 2, 8⟩, sz_ink k reverse)] :=
  @draws_table 2 8 sz _ _ _ _ hk reverse (by omega) hl

theorem lcd_chinese_draws {y l k : UInt8} (reverse : UInt8) (hk : k.toNat < 30) (hy : y.toNat ≤ 6)
    (hl : l.toNat + 16 ≤ 192) :
    (lcd_chinese y l k reverse).Draws [(⟨y.toNat, l.toNat, 2, 16⟩, hz_ink k reverse)] :=
  @draws_table 2 16 hz _ _ _ _ hk reverse (by omega) hl

theorem lcd_show6_8_draws {y l k : UInt8} (reverse : UInt8) (hk : k.toNat < 36) (hy : y.toNat ≤ 7)
    (hl : l.toNat + 6 ≤ 192) :
    (lcd_show6_8 y l k reverse).Draws [(⟨y.toNat, l.toNat, 1, 6⟩, zm6_8_ink k reverse)] :=
  @draws_table 1 6 zm6_8 _ _ _ _ hk reverse (by omega) hl

theorem lcd_show16_32_draws {y l k : UInt8} (hk : k.toNat < 15) (hy : y.toNat ≤ 4)
    (hl : l.toNat + 16 ≤ 192) :
    (lcd_show16_32 y l k).Draws [(⟨y.toNat, l.toNat, 4, 16⟩, zm16_32_ink k)] :=
  @draws_table 4 16 zm16_32 _ _ _ _ hk 0 (by omega) hl

end MeterTester
