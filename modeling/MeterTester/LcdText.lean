import MeterTester.LcdLayers

/-! # Rows of characters on the display

`lcd_show` takes its row in the middle when the column is `200`; a row that fits then has equal margins
(`lcd_show_draws`).  Texts of the two alphabets can be read back from the display (`lcd_show_zf_legible`),
and `Init_lcd` leaves a blank display whatever was on it (`Init_lcd_blank`). -/

namespace MeterTester

open SyncSerial Picture

/-! ### `lcd_show` -/

/-- The cell stands for a glyph of `hz` or of `sz`. -/
def Printable (k : UInt8) : Prop := if k < 100 then k.toNat < 30 else k.toNat < 147

def cell_width (k : UInt8) : ℕ := if k < 100 then 16 else 8

def cell_ink (reverse : UInt8) (i : ℕ) (k : UInt8) : ℕ → ℕ → UInt8 :=
  let inverted : UInt8 := if 10 ≤ reverse ∧ reverse.toNat - 10 = i ∨ reverse = 1 then 1 else 0
  if k < 100 then hz_ink k inverted else sz_ink (k - 100) inverted

def cells_width (cells : List UInt8) : ℕ := (cells.map cell_width).sum

/-- The characters of a list behind its length. -/
def list_cells (list : List UInt8) (len : UInt8) : List UInt8 := (list.drop 1).take len.toNat

instance (k : UInt8) : Decidable (Printable k) :=
  inferInstanceAs (Decidable (if k < 100 then _ else _))

theorem mapM_cells (list : List UInt8) {n : ℕ} (hn : n < list.length) :
    ((List.range n).mapM fun i => list[i + 1]?) = some ((list.drop 1).take n) := by
  induction n with
  | zero => rfl
  | succ n ih =>
      rw [List.range_succ, List.mapM_append, ih (by omega), List.take_add_one]
      simp [List.getElem?_eq_getElem hn]

/-- Half the width of a row, as the loop of `lcd_show` adds it up. -/
theorem half_width (cells : List UInt8) {c : UInt8} (hc : 2 * c.toNat + cells_width cells ≤ 192) :
    2 * (cells.foldl (fun Centered k => if k < 100 then Centered + 8 else Centered + 4) c).toNat =
      2 * c.toNat + cells_width cells := by
  induction cells generalizing c with
  | nil => rfl
  | cons k cells ih =>
      have hcons : cells_width (k :: cells) = cell_width k + cells_width cells := List.sum_cons
      rw [hcons] at hc ⊢
      rw [List.foldl_cons]
      by_cases hk : k < 100
      · have hw : cell_width k = 16 := if_pos hk
        have hadd : (c + 8).toNat = c.toNat + 8 := by
          rw [UInt8.toNat_add]
          show (c.toNat + 8) % 256 = _
          omega
        rw [if_pos hk, ih (by omega), hadd]
        omega
      · have hw : cell_width k = 8 := if_neg hk
        have hadd : (c + 4).toNat = c.toNat + 4 := by
          rw [UInt8.toNat_add]
          show (c.toNat + 4) % 256 = _
          omega
        rw [if_neg hk, ih (by omega), hadd]
        omega

/-- A row that fits is put in the middle. -/
theorem centred_toNat (cells : List UInt8) (hfit : cells_width cells ≤ 192) :
    2 * (centred cells).toNat + cells_width cells = 192 := by
  have hhalf := half_width cells (c := 0) (by simpa using hfit)
  unfold centred
  dsimp only
  generalize cells.foldl (fun Centered k => if k < 100 then Centered + 8 else Centered + 4) (0 : UInt8) = half
    at hhalf
  have hzero : (0 : UInt8).toNat = 0 := rfl
  split_ifs with h
  · have hle : half ≤ 96 := UInt8.le_of_lt h
    rw [UInt8.toNat_sub_of_le _ _ hle]
    have : half.toNat < 96 := h
    show 2 * (96 - half.toNat) + _ = 192
    omega
  · have : ¬ half.toNat < 96 := h
    omega

/-- **A row of characters**: cells that stand for glyphs and fit on the display are seen side by side, two
pages high, and nothing else changes; the one that `reverse` points to is inverted, or all of them.  With
the column `200` the margins are equal. -/
theorem lcd_show_draws {y l len reverse : UInt8} {list : List UInt8} (hlen : len.toNat < list.length)
    (hy : y.toNat ≤ 6) (hcells : ∀ k ∈ list_cells list len, Printable k)
    (hfit : (if l = 200 then 0 else l.toNat) + cells_width (list_cells list len) ≤ 192) :
    ∃ left, (lcd_show y l list len reverse).Draws (strip y.toNat 2 left
        ((list_cells list len).zipIdx.map fun x => (cell_width x.1, cell_ink reverse x.2 x.1))) ∧
      left + cells_width (list_cells list len) ≤ 192 ∧
      if l = 200 then 2 * left + cells_width (list_cells list len) = 192 else left = l.toNat := by
  have hwidth : ∀ k : UInt8, (if k < 100 then (16 : UInt8) else 8).toNat = cell_width k := by
    intro k
    unfold cell_width
    split_ifs <;> rfl
  let start := if l = 200 then centred (list_cells list len) else l
  have hstart : start.toNat + cells_width (list_cells list len) ≤ 192 ∧
      if l = 200 then 2 * start.toNat + cells_width (list_cells list len) = 192
      else start.toNat = l.toNat := by
    by_cases h : l = 200
    · have hcentred := centred_toNat (list_cells list len) (by rw [if_pos h] at hfit; omega)
      simp only [start, if_pos h]
      exact ⟨by omega, hcentred⟩
    · rw [if_neg h] at hfit
      simp only [start, if_neg h]
      exact ⟨hfit, trivial⟩
  refine ⟨start.toNat, ?_, hstart⟩
  have hdraws := @Out.draws_side_by_side UInt8
    (fun i k l => if k < 100 then lcd_chinese y l k
        (if 10 ≤ reverse ∧ reverse.toNat - 10 = i ∨ reverse = 1 then 1 else 0)
      else lcd_number y l (k - 100) (if 10 ≤ reverse ∧ reverse.toNat - 10 = i ∨ reverse = 1 then 1 else 0))
    (fun k => if k < 100 then 16 else 8) y.toNat 2 (cell_ink reverse) start
    (list_cells list len) (fun i k hk l hl => ?_) 0 0 ?_
  · simp only [hwidth] at hdraws
    rw [lcd_show, mapM_cells list hlen]
    exact hdraws
  · have hprintable := hcells k hk
    simp only [hwidth] at hl ⊢
    unfold Printable at hprintable
    by_cases h : k < 100
    · rw [if_pos h] at hprintable
      rw [cell_width, if_pos h] at hl
      simp only [cell_width, cell_ink, if_pos h]
      exact lcd_chinese_draws _ hprintable hy hl
    · rw [if_neg h] at hprintable
      rw [cell_width, if_neg h] at hl
      simp only [cell_width, cell_ink, if_neg h]
      refine lcd_number_draws _ ?_ hy hl
      have hle : (100 : UInt8) ≤ k := UInt8.not_lt.mp h
      rw [UInt8.toNat_sub_of_le _ _ hle]
      show k.toNat - 100 < 47
      omega
  · simp only [hwidth]
    exact hstart.1

/-- The first line of the menu. -/
theorem lcd_show_draws_menu :
    ∃ left, (lcd_show 0 200 [7, 22, 23, 111, 112, 4, 5, 6] 7 0).Draws (strip 0 2 left
        ((list_cells [7, 22, 23, 111, 112, 4, 5, 6] 7).zipIdx.map fun x =>
          (cell_width x.1, cell_ink 0 x.2 x.1))) ∧
      left + cells_width (list_cells [7, 22, 23, 111, 112, 4, 5, 6] 7) ≤ 192 ∧
      if (200 : UInt8) = 200 then 2 * left + cells_width (list_cells [7, 22, 23, 111, 112, 4, 5, 6] 7) = 192
      else left = (200 : UInt8).toNat :=
  lcd_show_draws (y := 0) (by decide) (by decide) (List.all_iff_forall_prop.mp (by decide +kernel)) (by decide)

/-! ### Texts -/

theorem find_zf_lt (table : List UInt8) (hpos : 0 < table.length) (hlt : table.length ≤ 256) (c : UInt8) :
    (find_zf table c).toNat < table.length := by
  unfold find_zf
  cases h : table.findIdx? (· = c) with
  | none => exact hpos
  | some k =>
      obtain ⟨hk, -⟩ := List.findIdx?_eq_some_iff_getElem.mp h
      rw [Option.getD_some, UInt8.toNat_ofNat_of_lt' (by show k < 256; omega)]
      exact hk

/-- The boxes of a text of characters of one width. -/
def text (cell : UInt8 → ℕ → ℕ → UInt8) (h w y l : ℕ) (t : List UInt8) : List (Placed UInt8) :=
  strip y h l ((t.map cell).map fun g => (w, g))

theorem text_widths (cell : UInt8 → ℕ → ℕ → UInt8) (w : ℕ) (t : List UInt8) :
    ((t.map cell).map fun g => (w, g)).map Prod.fst = List.replicate t.length w := by
  simp [Function.comp_def, List.map_const']

theorem text_boxes (cell : UInt8 → ℕ → ℕ → UInt8) (h w y l : ℕ) {t t' : List UInt8}
    (hlen : t.length = t'.length) :
    (text cell h w y l t).map Prod.fst = (text cell h w y l t').map Prod.fst :=
  strip_boxes (by rw [text_widths, text_widths, hlen])

theorem text_within {m n : ℕ} (cell : UInt8 → ℕ → ℕ → UInt8) {h w y l : ℕ} {t : List UInt8} (hy : y + h ≤ m)
    (hfit : l + w * t.length ≤ n) : ∀ b ∈ (text cell h w y l t).map Prod.fst, b.Within m n :=
  strip_within hy (by rw [text_widths, List.sum_replicate_nat, Nat.mul_comm]; exact hfit)

/-- A row of glyphs of one width. -/
theorem draws_text {draw : ℕ → UInt8 → UInt8 → Out} {width : UInt8} {y h : ℕ} {cell : UInt8 → ℕ → ℕ → UInt8}
    {l : UInt8} (data : List UInt8) (hdraw : ∀ i c, ∀ l : UInt8, l.toNat + width.toNat ≤ 192 →
      (draw i c l).Draws [(⟨y, l.toNat, h, width.toNat⟩, cell c)])
    (hfit : l.toNat + width.toNat * data.length ≤ 192) :
    (side_by_side draw (fun _ => width) l 0 0 data).Draws
      (text cell h width.toNat y l.toNat data) := by
  have hdraws := @Out.draws_side_by_side UInt8 draw (fun _ => width) y h (fun _ => cell) l data
    (fun i c _ => hdraw i c) 0 0 (by
      rw [List.map_const', List.sum_replicate_nat, Nat.mul_comm]
      exact hfit)
  have hcells : data.zipIdx.map (fun x => (width.toNat, cell x.1)) =
      (data.map cell).map fun g => (width.toNat, g) := by
    rw [List.map_map, ← List.zipIdx_map_fst 0 data, List.map_map, List.zipIdx_map_fst]
    rfl
  rw [hcells] at hdraws
  exact hdraws

theorem lcd_show_zf_draws {y l : UInt8} {data : List UInt8} (hy : y.toNat ≤ 6)
    (hfit : l.toNat + 8 * data.length ≤ 192) :
    (lcd_show_zf y l data).Draws
      (text (fun c => sz_ink (get_zf_number c) 0) 2 8 y.toNat l.toNat data) :=
  draws_text data (fun _ c _ hl =>
    lcd_number_draws 0 (find_zf_lt my_szzf_list (by decide) (by decide) c) hy hl) hfit

theorem lcd_show_zf6_8_draws {y l : UInt8} {data : List UInt8} (hy : y.toNat ≤ 7)
    (hfit : l.toNat + 6 * data.length ≤ 192) :
    (lcd_show_zf6_8 y l data).Draws
      (text (fun c => zm6_8_ink (get_zf68_number c) 0) 1 6 y.toNat l.toNat data) :=
  draws_text data (fun _ c _ hl =>
    lcd_show6_8_draws 0 (find_zf_lt my_zf6_8 (by decide) (by decide) c) hy hl) hfit

/-- No two characters of `my_szzf_list` look alike. -/
theorem sz_ink_alphabet (c : UInt8) (hc : c ∈ my_szzf_list) (c' : UInt8) (hc' : c' ∈ my_szzf_list)
    (h : ∀ r < 2, ∀ j < 8, sz_ink (get_zf_number c) 0 r j = sz_ink (get_zf_number c') 0 r j) : c = c' := by
  have hall : my_szzf_list.all fun c => my_szzf_list.all fun c' =>
      glyph_code (sz.getD (get_zf_number c).toNat (.replicate 16 0)) ≠
        glyph_code (sz.getD (get_zf_number c').toNat (.replicate 16 0)) ∨ c = c' := by decide +kernel
  simp only [List.all_eq_true, decide_eq_true_iff] at hall
  exact (hall c hc c' hc').resolve_left (not_not_intro (congrArg glyph_code (@ink_inj 2 8 _ _ h)))

/-- Of `my_zf6_8` only the letter `O` and the digit `0` look alike. -/
theorem zm6_8_ink_alphabet (c : UInt8) (hc : c ∈ my_zf6_8) (c' : UInt8) (hc' : c' ∈ my_zf6_8)
    (h : ∀ r < 1, ∀ j < 6, zm6_8_ink (get_zf68_number c) 0 r j = zm6_8_ink (get_zf68_number c') 0 r j) :
    c = c' ∨ c = 'O'.toUInt8 ∧ c' = '0'.toUInt8 ∨ c = '0'.toUInt8 ∧ c' = 'O'.toUInt8 := by
  have hall : my_zf6_8.all fun c => my_zf6_8.all fun c' =>
      glyph_code (zm6_8.getD (get_zf68_number c).toNat (.replicate 6 0)) ≠
          glyph_code (zm6_8.getD (get_zf68_number c').toNat (.replicate 6 0)) ∨
        c = c' ∨ c = 'O'.toUInt8 ∧ c' = '0'.toUInt8 ∨ c = '0'.toUInt8 ∧ c' = 'O'.toUInt8 := by decide +kernel
  simp only [List.all_eq_true, decide_eq_true_iff] at hall
  exact (hall c hc c' hc').resolve_left (not_not_intro (congrArg glyph_code (@ink_inj 1 6 _ _ h)))

/-- The function may have drawn what is seen. -/
def Out.SeenIn (o : Out) (v : Fin 8 × Fin 192 → UInt8) : Prop :=
  ∃ cs wrap level, ∃ s : Panel, o = some cs ∧ s.contrast = false ∧
    (s.after wrap level (cs.flatMap WriteData)).view = v

theorem Out.Draws.seenIn {o : Out} {xs : List (Placed UInt8)} (h : o.Draws xs)
    {v : Fin 8 × Fin 192 → UInt8} (hv : o.SeenIn v) : ∃ s : Panel, v = paint (xs.map layer) s.view := by
  obtain ⟨cs, hcs, hdraws⟩ := h
  obtain ⟨cs', wrap, level, s, hcs', hs, rfl⟩ := hv
  rw [hcs] at hcs'
  cases hcs'
  exact ⟨s, (hdraws wrap level s hs).2⟩

theorem Out.Draws.exists_seenIn {o : Out} {xs : List (Placed UInt8)} (h : o.Draws xs) : ∃ v, o.SeenIn v := by
  obtain ⟨cs, hcs, -⟩ := h
  exact ⟨_, cs, fun _ => (0, 0), fun _ => false, ⟨fun _ _ => 0, 0, 0, false⟩, hcs, rfl, rfl⟩

section texts
variable {table : List UInt8} {R : UInt8 → UInt8 → Prop} {cell : UInt8 → ℕ → ℕ → UInt8} {h w : ℕ}

/-- The characters of two rows of boxes that look the same, one by one. -/
theorem text_alike (hR : ∀ c ∈ table, ∀ c' ∈ table, (∀ r < h, ∀ j < w, cell c r j = cell c' r j) → R c c')
    {t t' : List UInt8} (ht : ∀ c ∈ t, c ∈ table) (ht' : ∀ c ∈ t', c ∈ table) (hlen : t.length = t'.length)
    {y l : ℕ} (halike : List.Forall₂ Alike (text cell h w y l t) (text cell h w y l t')) :
    List.Forall₂ R t t' := by
  induction t generalizing t' l with
  | nil =>
      rw [List.length_eq_zero_iff.mp hlen.symm]
      exact .nil
  | cons c t ih =>
      cases t' with
      | nil => cases hlen
      | cons c' t' =>
          obtain ⟨hc, hrest⟩ := List.forall₂_cons.mp halike
          exact .cons (hR c (ht c List.mem_cons_self) c' (ht' c' List.mem_cons_self) hc)
            (ih (fun d hd => ht d (List.mem_cons_of_mem c hd)) (fun d hd => ht' d (List.mem_cons_of_mem c' hd))
              (Nat.succ.inj hlen) hrest)

/-- Two texts that may be the one seen at a place. -/
theorem text_legible
    (hR : ∀ c ∈ table, ∀ c' ∈ table, (∀ r < h, ∀ j < w, cell c r j = cell c' r j) → R c c')
    {t t' : List UInt8} (ht : ∀ c ∈ t, c ∈ table) (ht' : ∀ c ∈ t', c ∈ table) (hlen : t.length = t'.length)
    {y l : ℕ} (hy : y + h ≤ 8) (hfit : l + w * t.length ≤ 192) {o o' : Out}
    (ho : o.Draws (text cell h w y l t)) (ho' : o'.Draws (text cell h w y l t'))
    {v : Fin 8 × Fin 192 → UInt8} (hv : o.SeenIn v) (hv' : o'.SeenIn v) : List.Forall₂ R t t' := by
  obtain ⟨s, hs⟩ := ho.seenIn hv
  obtain ⟨s', hs'⟩ := ho'.seenIn hv'
  exact text_alike hR ht ht' hlen (paint_alike (text_boxes _ _ _ _ _ hlen) (strip_apart _ _ _ _).2
    (text_within _ hy hfit) fun i _ => congrFun (hs.symm.trans hs') i)

end texts

/-- **Texts can be read**: two texts of `my_szzf_list` with as many characters that may be the one seen at a
place of the display are the same. -/
theorem lcd_show_zf_legible {y l : UInt8} {t t' : List UInt8} (hy : y.toNat ≤ 6)
    (hlen : t.length = t'.length) (hfit : l.toNat + 8 * t.length ≤ 192) (ht : ∀ c ∈ t, c ∈ my_szzf_list)
    (ht' : ∀ c ∈ t', c ∈ my_szzf_list) {v : Fin 8 × Fin 192 → UInt8} (hv : (lcd_show_zf y l t).SeenIn v)
    (hv' : (lcd_show_zf y l t').SeenIn v) : t = t' := by
  have halike := text_legible sz_ink_alphabet ht ht' hlen (by omega) hfit (lcd_show_zf_draws hy hfit)
    (lcd_show_zf_draws hy (by rw [← hlen]; exact hfit)) hv hv'
  rwa [List.forall₂_eq_eq_eq] at halike

theorem lcd_show_zf_legible_write_error : ∃ v, (lcd_show_zf 2 0 ("Write error".toList.map Char.toUInt8)).SeenIn v ∧
    "Write error".toList.map Char.toUInt8 = "Write error".toList.map Char.toUInt8 := by
  obtain ⟨v, hv⟩ := (@lcd_show_zf_draws 2 0 ("Write error".toList.map Char.toUInt8)
    (by decide) (by decide)).exists_seenIn
  have hlist : ∀ c ∈ "Write error".toList.map Char.toUInt8, c ∈ my_szzf_list :=
    List.all_iff_forall_prop.mp (by decide +kernel)
  exact ⟨v, hv, lcd_show_zf_legible (by decide) rfl (by decide) hlist hlist hv hv⟩

/-! ### The whole display -/

/-- One page of one byte. -/
theorem run_blank_page {wrap : ℕ → ℕ × ℕ} {s : Panel} (hs : s.contrast = false) (D : UInt8) {i : ℕ}
    (hi : i < 8) :
    (s.run wrap (blank_page D i)).contrast = false ∧
      (s.run wrap (blank_page D i)).view = (rect (7 - i) 0 1 192 fun _ _ => D).on s.view := by
  have haddress : s.run wrap [⟨0xb0 ||| UInt8.ofNat i, 0⟩, ⟨0x10, 0⟩, ⟨0x00, 0⟩] =
      { s with page := i, column := 0 } := by
    have h := Panel.run_address wrap hs ⟨i, hi⟩ 0 hi 0
    rw [show (0xb0 ||| UInt8.ofNat i) + UInt8.ofNat (0 : Fin 8).1 = 0xb0 ||| UInt8.ofNat i from
      UInt8.add_zero _] at h
    exact h
  obtain ⟨hcontrast, hram⟩ := Panel.run_data wrap (List.replicate 192 D)
    (s := { s with page := i, column := 0 }) (by rw [List.length_replicate])
  have hscroll : s.run wrap [⟨0x40, 0⟩] = s := by
    show s.command 0x40 = s
    rw [Panel.command, if_neg (by rw [hs]; decide)]
    rfl
  have hcalls : blank_page D i = [⟨0x40, 0⟩] ++ ([⟨0xb0 ||| UInt8.ofNat i, 0⟩, ⟨0x10, 0⟩, ⟨0x00, 0⟩] ++
      (List.replicate 192 D).map (⟨·, 1⟩)) := by
    rw [List.map_replicate]
    rfl
  have hrun : s.run wrap (blank_page D i) =
      ({ s with page := i, column := 0 } : Panel).run wrap ((List.replicate 192 D).map (⟨·, 1⟩)) := by
    rw [hcalls, Panel.run_append, Panel.run_append, hscroll, haddress]
  rw [hrun]
  refine ⟨hcontrast.trans hs, funext fun x => ?_⟩
  obtain ⟨p, c⟩ := x
  have hp := p.2
  have hc := c.2
  simp only [Panel.view, hram, Fin.val_rev p, Fin.val_rev c]
  by_cases hrow : p.1 = 7 - i
  · rw [if_pos (by omega), List.getD_replicate, Layer.on_of_some (rect_of_mem (r := 0) (c := c.1) _
      (by omega) hc hrow (Nat.zero_add _).symm)]
    omega
  · rw [if_neg (by omega), Layer.on_of_none (rect_of_not_mem _ (by simp only; omega))]
    rfl

theorem Dispgraphic_draws (D : UInt8) :
    Out.Draws (some (Dispgraphic D)) [(⟨0, 0, 8, 192⟩, fun _ _ => D)] := by
  refine ⟨_, rfl, fun wrap level s hs => ?_⟩
  rw [Panel.after_calls]
  obtain ⟨hcontrast, hview⟩ := Panel.run_flatMap _ (List.range 8)
    (fun i hi s hs => run_blank_page hs D (List.mem_range.mp hi)) hs
  have hrows := @paint_rows UInt8 8 192 ℕ 0 0 8 192 (fun _ _ => D) (fun i => 7 - i) (List.range 8)
    (by decide) (fun r => ?_) s.view
  · simp only [Nat.zero_add] at hrows
    exact ⟨hcontrast, hview.trans hrows⟩
  · rw [List.mem_map]
    constructor
    · rintro ⟨i, -, rfl⟩
      omega
    · exact fun hr => ⟨7 - r, List.mem_range.mpr (by omega), by omega⟩

theorem Panel.command_contrast (s : Panel) (b : UInt8) :
    (s.command b).contrast = (!s.contrast && b = 0x81) := by
  unfold command
  cases hs : s.contrast <;> split_ifs <;> simp_all

/-- **`Init_lcd` leaves a blank display**, whatever the wires, the address and the memory were like. -/
theorem Init_lcd_blank (wrap : ℕ → ℕ × ℕ) (level : Wire → Bool) (s : Panel) :
    (s.after wrap level (Init_lcd.flatMap WriteData)).view = fun _ => 0 := by
  obtain ⟨cs, hcs, hdraws⟩ := Dispgraphic_draws 0x00
  cases hcs
  have hinit : (s.run wrap (IC.map (⟨·, 0⟩))).contrast = false := by
    simp only [IC, Panel.run, List.map_cons, List.map_nil, List.foldl_cons, List.foldl_nil, Panel.call]
    simp only [show ¬ (0 : UInt8) = 1 by decide, if_false, Panel.command_contrast]
    cases s.contrast <;> decide
  obtain ⟨-, hview⟩ := hdraws wrap level _ hinit
  rw [Panel.after_calls] at hview ⊢
  rw [Init_lcd, Panel.run_append, hview]
  funext x
  exact Layer.on_of_some (rect_of_mem (r := x.1) (c := x.2) _ x.1.2 x.2.2 (Nat.zero_add _).symm
    (Nat.zero_add _).symm) _

end MeterTester
