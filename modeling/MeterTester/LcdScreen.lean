import MeterTester.Browser
import MeterTester.LcdText

/-! # The screen of the radio log: `main.c`

`MS_thread_ax_start` clears the display and shows the time and, if there is one, the labels and the newest
record of the log; `show_ax_data` overwrites the places of the values.  What is drawn is the record that
the world shows behind that turn (`MS_thread_ax_start_screen`).  Whatever the displays showed before, two
such screens look the same exactly if the time and the values are the same (`ax_screen_iff`). -/

namespace MeterTester

open SyncSerial Picture World

namespace Lcd

/-- The text `zz` of `ax_time_show`. -/
def ax_time_text (my_time : Vector UInt8 7) : List UInt8 :=
  let two (i : Fin 7) : List UInt8 := [my_time.get i / 10 + chr '0', my_time.get i % 10 + chr '0']
  [chr '2', chr '0'] ++ two 6 ++ [chr '-'] ++ two 5 ++ [chr '-'] ++ two 4 ++ [chr ' '] ++ two 2 ++ [chr ':'] ++
    two 1 ++ [chr ':'] ++ two 0

def ax_time_show (my_time : Vector UInt8 7) (time_number : UInt8) (reverse : ℕ) : Out :=
  if time_number < 20 ∧ reverse = 1 then lcd_show_zf_time 0 0 (ax_time_text my_time) time_number
  else lcd_show_zf6_8 0 0 (ax_time_text my_time)

/-- The arguments `y`, `l` and `k` of the calls of `lcd_show6_8` in a loop that shows a number from its
lowest digit on. -/
def number_calls (y l : UInt8) : ℕ → ℕ → List (UInt8 × UInt8 × UInt8)
  | 0, _ => []
  | n + 1, x => (y, l, UInt8.ofNat (x % 10)) :: number_calls y (l - 6) n (x / 10)

/-- The five digits of a slot, from the highest on. -/
def addr_calls (l : UInt8) (addr : ℕ) : List (UInt8 × UInt8 × UInt8) := [
  (7, l, UInt8.ofNat (addr / 10000 % 10)),
  (7, l + 6, UInt8.ofNat (addr / 1000 % 10)),
  (7, l + 12, UInt8.ofNat (addr / 100 % 10)),
  (7, l + 18, UInt8.ofNat (addr / 10 % 10)),
  (7, l + 24, UInt8.ofNat (addr % 10))]

section calls

local instance neZero_ten : NeZero 10 := ⟨by decide⟩

/-- The calls of `lcd_show6_8` in `show_ax_data`. -/
def ax_calls (s : Shown) (stat : ℕ) : List (UInt8 × UInt8 × UInt8) :=
  [(1, 60, s.v / 2), (1, 66, s.v % 2)] ++
  (if s.v = 0 then number_calls 2 78 8 s.msid
    else number_calls 2 66 6 s.msid ++ [(2, 72, 10), (2, 78, 10)]) ++
  number_calls 3 66 6 s.msv ++ [
    (4, 66, s.data.get 0), (5, 66, s.data.get 1), (6, 66, s.data.get 2), (7, 66, s.data.get 3),
    (1, 108, s.data.get 4), (2, 108, s.data.get 5), (3, 108, s.data.get 6), (4, 108, s.data.get 7),
    (5, 108, s.data.get 8), (6, 108, s.data.get 9)] ++
  addr_calls 78 s.addr ++ [(7, 108, 35)] ++ addr_calls 114 ((stat + 0xffff) % 0x10000)

end calls

/-- An `int` as an `unsigned char`. -/
def uchar (n : ℤ) : UInt8 := UInt8.ofNat (n % 0x100).toNat

/-- `show_ax_data`, where `stat_sample` returns `stat`. -/
def show_ax_data (s : Shown) (stat : ℕ) : Out :=
  (Out.all [
    lcd_show16_32 4 176 (uchar (s.rssi.tmod 10)),
    lcd_show16_32 4 160 (uchar ((s.rssi.tmod 100).tdiv 10)),
    lcd_show16_32 4 144 (uchar ((s.rssi.tmod 1000).tdiv 100))]).seq <|
  Out.all ((ax_calls s stat).map fun x => lcd_show6_8 x.1 x.2.1 x.2.2 0)

def ax_labels : Out := Out.all [
  lcd_show_zf6_8 1 0 ("VERSION:  00   DL:0".toList.map chr),
  lcd_show_zf6_8 2 0 ("MSID:          XL:0".toList.map chr),
  lcd_show_zf6_8 3 0 ("MSV:  950703   AJ:0".toList.map chr),
  lcd_show_zf6_8 4 0 ("TAMPER:    0 V-DK:0".toList.map chr),
  lcd_show_zf6_8 5 0 ("BATTERY:   0 V-DL:0".toList.map chr),
  lcd_show_zf6_8 6 0 ("B-LOW:     0 V-QM:0".toList.map chr),
  lcd_show_zf6_8 7 0 ("VALVE:     0".toList.map chr),
  lcd_show16_32 0 128 11,
  lcd_show16_32 0 144 12,
  lcd_show16_32 0 160 12,
  lcd_show16_32 0 176 13,
  lcd_show16_32 4 128 10]

/-- What `show_ax_record` shows. -/
def show_ax_record (w : World) (addr : ℕ) : Out :=
  let w := w.show_slot addr
  w.screen.bind fun s => show_ax_data s (stat_number w)

/-- What `MS_thread_ax_start` shows. -/
def MS_thread_ax_start (w : World) : Out :=
  let w := w.get_date
  Out.all [some (Dispgraphic 0x00), ax_time_show w.my_time (UInt8.ofNat w.time_number) w.reverse,
    if w.dfs.get_ax5045len_data ≠ 0 then
      ax_labels.seq (show_ax_record w (w.dfs.get_ax5045len_data - 1))
    else some []]

/-! ### The turn that enters the log -/

/-- The record that the world shows, with the labels. -/
def log_screen (w : World) : Out :=
  match w.screen with
  | none => some []
  | some s => ax_labels.seq (show_ax_data s (stat_number w))

/-- **What is drawn** on the cleared display is the time and the record that the world shows behind the
turn. -/
theorem MS_thread_ax_start_screen {w w' : World} (hM : w.MS = 10) (h : Task.main.go w = some w') :
    MS_thread_ax_start w.entered = Out.all [some (Dispgraphic 0x00),
      ax_time_show w'.my_time (UInt8.ofNat w.time_number) w.reverse, log_screen w'] := by
  rw [ax_start_turn hM] at h
  obtain rfl := Option.some.inj h
  unfold MS_thread_ax_start
  dsimp only
  by_cases hc : w.entered.get_date.dfs.get_ax5045len_data ≠ 0
  · have hshown : w.entered.log_shown =
        w.entered.log_opened.show_slot (w.dfs.get_ax5045len_data - 1) := if_pos hc
    rw [if_pos hc, log_entered, hshown]
    rfl
  · have hshown : w.entered.log_shown = w.entered.log_opened := if_neg hc
    rw [if_neg hc, log_entered, hshown]
    rfl

/-! ### The numbers behind the calls -/

theorem digit_inj {a b : ℕ} (ha : a < 256) (hb : b < 256) (h : UInt8.ofNat a = UInt8.ofNat b) : a = b := by
  have := congrArg UInt8.toNat h
  rwa [UInt8.toNat_ofNat_of_lt' ha, UInt8.toNat_ofNat_of_lt' hb] at this

theorem number_calls_length (y l : UInt8) (n x : ℕ) : (number_calls y l n x).length = n := by
  induction n generalizing l x with
  | zero => rfl
  | succ n ih => rw [number_calls, List.length_cons, ih]

/-- The calls tell the lowest digits of the number. -/
theorem number_calls_iff (y l : UInt8) (n x x' : ℕ) :
    number_calls y l n x = number_calls y l n x' ↔ x % 10 ^ n = x' % 10 ^ n := by
  induction n generalizing l x x' with
  | zero => simp [number_calls, Nat.mod_one]
  | succ n ih =>
      have hmod : ∀ x : ℕ, x % 10 ^ (n + 1) = x % 10 + 10 * (x / 10 % 10 ^ n) := fun x => by
        rw [Nat.pow_succ', Nat.mod_mul]
      rw [number_calls, number_calls, List.cons.injEq, ih, hmod, hmod]
      constructor
      · rintro ⟨hdigit, hrest⟩
        have := digit_inj (by omega) (by omega) (Prod.mk.inj (Prod.mk.inj hdigit).2).2
        rw [this, hrest]
      · intro h
        have hdigit : x % 10 = x' % 10 := by omega
        exact ⟨by rw [hdigit], by omega⟩

theorem addr_calls_length (l : UInt8) (addr : ℕ) : (addr_calls l addr).length = 5 := rfl

theorem addr_calls_iff (l : UInt8) {addr addr' : ℕ} (h : addr < 100000) (h' : addr' < 100000) :
    addr_calls l addr = addr_calls l addr' ↔ addr = addr' := by
  refine ⟨fun heq => ?_, fun heq => by rw [heq]⟩
  simp only [addr_calls, List.cons.injEq, Prod.mk.injEq, true_and, and_true] at heq
  obtain ⟨h₁, h₂, h₃, h₄, h₅⟩ := heq
  have := digit_inj (by omega) (by omega) h₁
  have := digit_inj (by omega) (by omega) h₂
  have := digit_inj (by omega) (by omega) h₃
  have := digit_inj (by omega) (by omega) h₄
  have := digit_inj (by omega) (by omega) h₅
  omega

/-- The values that `show_ax_data` shows are the same. -/
structure Same (s s' : Shown) (stat stat' : ℕ) : Prop where
  v : s.v = s'.v
  msid : if s.v = 0 then s.msid % 10 ^ 8 = s'.msid % 10 ^ 8 else s.msid % 10 ^ 6 = s'.msid % 10 ^ 6
  msv : s.msv % 10 ^ 6 = s'.msv % 10 ^ 6
  data : s.data = s'.data
  rssi : s.rssi % 1000 = s'.rssi % 1000
  addr : s.addr = s'.addr
  stat : stat = stat'

/-- The values are in the ranges of their types, and those that are shown by one glyph have one. -/
structure Legible (s : Shown) (stat : ℕ) : Prop where
  v : s.v < 60
  data : ∀ i, s.data.get i < 30
  rssi : 0 ≤ s.rssi
  addr : s.addr < 0x10000
  stat : stat < 0x10000

/-- The calls for the serial number. -/
def msid_calls (s : Shown) : List (UInt8 × UInt8 × UInt8) :=
  if s.v = 0 then number_calls 2 78 8 s.msid else number_calls 2 66 6 s.msid ++ [(2, 72, 10), (2, 78, 10)]

theorem msid_calls_iff {s s' : Shown} (hv : s.v = s'.v) : msid_calls s = msid_calls s' ↔
    if s.v = 0 then s.msid % 10 ^ 8 = s'.msid % 10 ^ 8 else s.msid % 10 ^ 6 = s'.msid % 10 ^ 6 := by
  unfold msid_calls
  rw [← hv]
  split_ifs
  · exact number_calls_iff _ _ _ _ _
  · rw [List.append_left_inj]
    exact number_calls_iff _ _ _ _ _

theorem div_mod_inj (n : UInt8) {v v' : UInt8} (h : v / n = v' / n) (h' : v % n = v' % n) : v = v' := by
  have hdiv := congrArg UInt8.toNat h
  have hmod := congrArg UInt8.toNat h'
  rw [UInt8.toNat_div, UInt8.toNat_div] at hdiv
  rw [UInt8.toNat_mod, UInt8.toNat_mod] at hmod
  apply UInt8.toNat_inj.mp
  rw [← Nat.div_add_mod v.toNat n.toNat, hdiv, hmod, Nat.div_add_mod]

/-- The calls tell the values apart from the signal strength. -/
theorem ax_calls_iff {s s' : Shown} {stat stat' : ℕ} (hs : Legible s stat) (hs' : Legible s' stat') :
    ax_calls s stat = ax_calls s' stat' ↔
      s.v = s'.v ∧ (if s.v = 0 then s.msid % 10 ^ 8 = s'.msid % 10 ^ 8
          else s.msid % 10 ^ 6 = s'.msid % 10 ^ 6) ∧
        s.msv % 10 ^ 6 = s'.msv % 10 ^ 6 ∧ s.data = s'.data ∧ s.addr = s'.addr ∧ stat = stat' := by
  have haddr := hs.addr
  have haddr' := hs'.addr
  have hstat := hs.stat
  have hstat' := hs'.stat
  constructor
  · intro h
    unfold ax_calls at h
    obtain ⟨h, hstats⟩ := List.append_inj' h (by rw [addr_calls_length, addr_calls_length])
    obtain ⟨h, -⟩ := List.append_inj' h rfl
    obtain ⟨h, haddrs⟩ := List.append_inj' h (by rw [addr_calls_length, addr_calls_length])
    obtain ⟨h, hdata⟩ := List.append_inj' h rfl
    obtain ⟨h, hmsv⟩ := List.append_inj' h (by rw [number_calls_length, number_calls_length])
    obtain ⟨hv, hmsid⟩ := List.append_inj h rfl
    simp only [List.cons.injEq, Prod.mk.injEq, true_and, and_true] at hv hdata
    have hv := div_mod_inj 2 hv.1 hv.2
    refine ⟨hv, (msid_calls_iff hv).mp hmsid, (number_calls_iff _ _ _ _ _).mp hmsv, ?_,
      (addr_calls_iff 78 (by omega) (by omega)).mp haddrs, ?_⟩
    · refine Vector.ext fun i hi => ?_
      have : ∀ j : Fin 10, s.data.get j = s'.data.get j := by
        intro j
        fin_cases j <;> simp [hdata]
      exact this ⟨i, hi⟩
    · have := (addr_calls_iff 114 (by omega) (by omega)).mp hstats
      omega
  · rintro ⟨hv, hmsid, hmsv, hdata, haddr, hstat⟩
    have hids := (msid_calls_iff hv).mpr hmsid
    unfold msid_calls at hids
    unfold ax_calls
    rw [hids, hv, (number_calls_iff 3 66 6 _ _).mpr hmsv, hdata, haddr, hstat]

/-! ### The boxes of the values -/

/-- The glyph of one call of `lcd_show6_8`. -/
def glyph_box (x : UInt8 × UInt8 × UInt8) : Placed UInt8 :=
  (⟨x.1.toNat, x.2.1.toNat, 1, 6⟩, zm6_8_ink x.2.2 0)

def rssi_boxes (rssi : ℤ) : List (Placed UInt8) := [
  (⟨4, 176, 4, 16⟩, zm16_32_ink (uchar (rssi.tmod 10))),
  (⟨4, 160, 4, 16⟩, zm16_32_ink (uchar ((rssi.tmod 100).tdiv 10))),
  (⟨4, 144, 4, 16⟩, zm16_32_ink (uchar ((rssi.tmod 1000).tdiv 100)))]

def ax_placed (s : Shown) (stat : ℕ) : List (Placed UInt8) :=
  rssi_boxes s.rssi ++ (ax_calls s stat).map glyph_box

/-- Some record with the version `v`. -/
def sample (v : UInt8) : Shown := ⟨0, 0, v, .replicate 10 0, 0, 0⟩

/-- The boxes depend on the version only. -/
theorem ax_placed_boxes (s : Shown) (stat : ℕ) :
    (ax_placed s stat).map Prod.fst =
      (ax_placed (sample (if s.v = 0 then 0 else 1)) 0).map Prod.fst := by
  by_cases hv : s.v = 0
  · simp [ax_placed, ax_calls, hv, number_calls, addr_calls, glyph_box, rssi_boxes, sample]
  · simp [ax_placed, ax_calls, hv, number_calls, addr_calls, glyph_box, rssi_boxes, sample]

/-- The boxes keep apart and leave the time alone. -/
theorem ax_boxes (s : Shown) (stat : ℕ) :
    ((ax_placed s stat).map Prod.fst).Pairwise Box.Apart ∧
      ∀ b ∈ (ax_placed s stat).map Prod.fst, b.Within 8 192 ∧ b.Apart ⟨0, 0, 1, 114⟩ := by
  have hboxes : ∀ v ∈ [(0 : UInt8), 1], ((ax_placed (sample v) 0).map Prod.fst).Pairwise Box.Apart ∧
      ∀ b ∈ (ax_placed (sample v) 0).map Prod.fst, b.Within 8 192 ∧ b.Apart ⟨0, 0, 1, 114⟩ := by
    decide +kernel
  rw [ax_placed_boxes]
  split_ifs
  · exact hboxes 0 (by decide)
  · exact hboxes 1 (by decide)

/-- The glyphs that are used for values. -/
def Used (k : UInt8) : Prop := k < 30 ∨ k = 35

instance (k : UInt8) : Decidable (Used k) := inferInstanceAs (Decidable (_ ∨ _))

theorem digit_used (n : ℕ) : Used (UInt8.ofNat (n % 10)) := by
  left
  rw [UInt8.lt_iff_toNat_lt, UInt8.toNat_ofNat_of_lt' (by show n % 10 < 256; omega)]
  show n % 10 < 30
  omega

theorem number_calls_used (y l : UInt8) (n x : ℕ) : ∀ c ∈ number_calls y l n x, Used c.2.2 := by
  induction n generalizing l x with
  | zero => exact fun c hc => absurd hc List.not_mem_nil
  | succ n ih =>
      intro c hc
      rcases List.mem_cons.mp hc with rfl | hc
      · exact digit_used x
      · exact ih _ _ c hc

theorem addr_calls_used (l : UInt8) (addr : ℕ) : ∀ c ∈ addr_calls l addr, Used c.2.2 := by
  simp only [addr_calls, List.forall_mem_cons]
  exact ⟨digit_used _, digit_used _, digit_used _, digit_used _, digit_used _, fun c hc =>
    absurd hc List.not_mem_nil⟩

theorem ax_calls_used {s : Shown} {stat : ℕ} (hs : Legible s stat) :
    ∀ c ∈ ax_calls s stat, Used c.2.2 := by
  have hv : Used (s.v / 2) ∧ Used (s.v % 2) := by
    have hv := UInt8.lt_iff_toNat_lt.mp hs.v
    have h60 : (60 : UInt8).toNat = 60 := rfl
    constructor
    · left
      rw [UInt8.lt_iff_toNat_lt, UInt8.toNat_div]
      show s.v.toNat / 2 < 30
      omega
    · left
      rw [UInt8.lt_iff_toNat_lt, UInt8.toNat_mod]
      show s.v.toNat % 2 < 30
      omega
  have hmsid : ∀ c ∈ msid_calls s, Used c.2.2 := by
    unfold msid_calls
    split_ifs
    · exact number_calls_used _ _ _ _
    · rw [List.forall_mem_append, List.forall_mem_cons, List.forall_mem_singleton]
      exact ⟨number_calls_used _ _ _ _, .inl (show (10 : UInt8) < 30 by decide),
        .inl (show (10 : UInt8) < 30 by decide)⟩
  unfold ax_calls
  simp only [List.forall_mem_append, List.forall_mem_cons]
  refine ⟨⟨⟨⟨⟨⟨⟨hv.1, hv.2, ?_⟩, hmsid⟩, number_calls_used _ _ _ _⟩, ?_⟩, addr_calls_used _ _⟩, ?_⟩,
    addr_calls_used _ _⟩
  · exact fun c hc => absurd hc List.not_mem_nil
  · exact ⟨.inl (hs.data 0), .inl (hs.data 1), .inl (hs.data 2), .inl (hs.data 3), .inl (hs.data 4),
      .inl (hs.data 5), .inl (hs.data 6), .inl (hs.data 7), .inl (hs.data 8), .inl (hs.data 9),
      fun c hc => absurd hc List.not_mem_nil⟩
  · exact ⟨.inr rfl, fun c hc => absurd hc List.not_mem_nil⟩

theorem uchar_eq {n : ℤ} (h0 : 0 ≤ n) (h : n < 10) : (uchar n).toNat = n.toNat := by
  rw [uchar, Int.emod_eq_of_lt h0 (by omega), UInt8.toNat_ofNat_of_lt' (by show n.toNat < 256; omega)]

/-- The three digits of the signal strength. -/
theorem rssi_digits {rssi : ℤ} (h : 0 ≤ rssi) :
    (0 ≤ rssi.tmod 10 ∧ rssi.tmod 10 < 10) ∧
      (0 ≤ (rssi.tmod 100).tdiv 10 ∧ (rssi.tmod 100).tdiv 10 < 10) ∧
        (0 ≤ (rssi.tmod 1000).tdiv 100 ∧ (rssi.tmod 1000).tdiv 100 < 10) ∧
          rssi % 1000 = rssi.tmod 10 + 10 * (rssi.tmod 100).tdiv 10 + 100 * (rssi.tmod 1000).tdiv 100 := by
  rw [Int.tmod_eq_emod_of_nonneg h, Int.tmod_eq_emod_of_nonneg h, Int.tmod_eq_emod_of_nonneg h,
    Int.tdiv_eq_ediv_of_nonneg (by omega), Int.tdiv_eq_ediv_of_nonneg (by omega)]
  omega

theorem rssi_draws {rssi : ℤ} (h : 0 ≤ rssi) : (Out.all [
    lcd_show16_32 4 176 (uchar (rssi.tmod 10)),
    lcd_show16_32 4 160 (uchar ((rssi.tmod 100).tdiv 10)),
    lcd_show16_32 4 144 (uchar ((rssi.tmod 1000).tdiv 100))]).Draws (rssi_boxes rssi) := by
  obtain ⟨h₁, h₂, h₃, -⟩ := rssi_digits h
  have huchar : ∀ {n : ℤ}, 0 ≤ n ∧ n < 10 → (uchar n).toNat < 15 := fun hn => by
    rw [uchar_eq hn.1 hn.2]
    omega
  exact (lcd_show16_32_draws (huchar h₁) (by decide) (by decide)).seq
    ((lcd_show16_32_draws (huchar h₂) (by decide) (by decide)).seq
      ((lcd_show16_32_draws (huchar h₃) (by decide) (by decide)).seq .nil))

theorem show_ax_data_draws {s : Shown} {stat : ℕ} (hs : Legible s stat) :
    (show_ax_data s stat).Draws (ax_placed s stat) := by
  have hcalls := Out.draws_all (ax_calls s stat) (fun x => lcd_show6_8 x.1 x.2.1 x.2.2 0)
    (fun x => [glyph_box x]) fun c hc => by
      have hbox : (glyph_box c).1 ∈ (ax_placed s stat).map Prod.fst :=
        List.mem_map_of_mem (List.mem_append_right _ (List.mem_map_of_mem hc))
      obtain ⟨htop, hleft⟩ := ((ax_boxes s stat).2 _ hbox).1
      refine lcd_show6_8_draws 0 ?_ (Nat.le_of_succ_le_succ htop) hleft
      rcases ax_calls_used hs c hc with hk | hk
      · have : c.2.2.toNat < 30 := hk
        omega
      · rw [hk]
        decide
  rw [← List.map_eq_flatMap] at hcalls
  exact (rssi_draws hs.rssi).seq hcalls

/-- The glyphs that are used differ. -/
theorem zm6_8_ink_inj (k k' : UInt8) (hk : Used k) (hk' : Used k')
    (h : ∀ r < 1, ∀ c < 6, zm6_8_ink k 0 r c = zm6_8_ink k' 0 r c) : k = k' := by
  have hall : ∀ k : Fin 36, Used (UInt8.ofNat k.1) → my_zf6_8.any fun c =>
      get_zf68_number c = UInt8.ofNat k.1 ∧ c ≠ 'O'.toUInt8 := by decide +kernel
  simp only [List.any_eq_true, decide_eq_true_iff] at hall
  have hchar : ∀ k : UInt8, Used k → ∃ c ∈ my_zf6_8, get_zf68_number c = k ∧ c ≠ 'O'.toUInt8 := by
    intro k hk
    have hlt : k.toNat < 36 := by
      rcases hk with hk | rfl
      · have : k.toNat < 30 := hk
        omega
      · decide
    have hc := hall ⟨k.toNat, hlt⟩
    rw [UInt8.ofNat_toNat] at hc
    exact hc hk
  obtain ⟨c, hc, rfl, hO⟩ := hchar k hk
  obtain ⟨c', hc', rfl, hO'⟩ := hchar k' hk'
  rcases zm6_8_ink_alphabet c hc c' hc' h with rfl | ⟨heq, -⟩ | ⟨-, heq⟩
  · rfl
  · exact absurd heq hO
  · exact absurd heq hO'

theorem zm16_32_ink_inj {d d' : ℤ} (hd : 0 ≤ d ∧ d < 10) (hd' : 0 ≤ d' ∧ d' < 10)
    (h : ∀ r < 4, ∀ c < 16, zm16_32_ink (uchar d) r c = zm16_32_ink (uchar d') r c) : d = d' := by
  have hall : ∀ k k' : Fin 10, glyph_code (zm16_32.getD (UInt8.ofNat k.1).toNat (.replicate 64 0)) =
      glyph_code (zm16_32.getD (UInt8.ofNat k'.1).toNat (.replicate 64 0)) → k = k' := by decide +kernel
  have huchar : ∀ {n : ℤ}, 0 ≤ n ∧ n < 10 → uchar n = UInt8.ofNat n.toNat := fun hn => by
    rw [← uchar_eq hn.1 hn.2, UInt8.ofNat_toNat]
  rw [huchar hd, huchar hd'] at h
  have := Fin.mk.inj_iff.mp (hall ⟨d.toNat, by omega⟩ ⟨d'.toNat, by omega⟩
    (congrArg glyph_code (@ink_inj 4 16 _ _ h)))
  omega

/-- Two lists of calls that look the same are the same. -/
theorem calls_alike {xs ys : List (UInt8 × UInt8 × UInt8)} (hx : ∀ c ∈ xs, Used c.2.2)
    (hy : ∀ c ∈ ys, Used c.2.2) (hplaces : (xs.map glyph_box).map Prod.fst = (ys.map glyph_box).map Prod.fst)
    (h : List.Forall₂ Alike (xs.map glyph_box) (ys.map glyph_box)) : xs = ys := by
  induction xs generalizing ys with
  | nil =>
      cases ys with
      | nil => rfl
      | cons y ys => cases hplaces
  | cons x xs ih =>
      cases ys with
      | nil => cases hplaces
      | cons y ys =>
          obtain ⟨hxy, hrest⟩ := List.cons.inj hplaces
          obtain ⟨hglyph, halike⟩ := List.forall₂_cons.mp h
          have hk := zm6_8_ink_inj _ _ (hx x List.mem_cons_self) (hy y List.mem_cons_self) hglyph
          have htop : x.1 = y.1 := UInt8.toNat_inj.mp (congrArg Box.top hxy)
          have hleft : x.2.1 = y.2.1 := UInt8.toNat_inj.mp (congrArg Box.left hxy)
          rw [ih (fun c hc => hx c (List.mem_cons_of_mem x hc)) (fun c hc => hy c (List.mem_cons_of_mem y hc))
            hrest halike, Prod.ext htop (Prod.ext hleft hk)]

/-- The version can be seen. -/
theorem version_alike {s s' : Shown} {stat stat' : ℕ} (hs : Legible s stat) (hs' : Legible s' stat')
    {p p' : Fin 8 × Fin 192 → UInt8} (heq : ∀ i, (∃ x ∈ ax_placed s stat, layer x i ≠ none) →
      paint ((ax_placed s stat).map layer) p i = paint ((ax_placed s' stat').map layer) p' i) :
    s.v = s'.v := by
  have hglyph : ∀ (l k k' : UInt8), (1, l, k) ∈ ax_calls s stat → (1, l, k') ∈ ax_calls s' stat' → k = k' := by
    intro l k k' hk hk'
    have hmem : ∀ (s : Shown) (stat : ℕ) (k : UInt8), (1, l, k) ∈ ax_calls s stat →
        glyph_box (1, l, k) ∈ ax_placed s stat := fun s stat k hk =>
      List.mem_append_right _ (List.mem_map_of_mem hk)
    have hin := ((ax_boxes s stat).2 _ (List.mem_map_of_mem (hmem s stat k hk))).1.2
    refine zm6_8_ink_inj k k' (ax_calls_used hs _ hk) (ax_calls_used hs' _ hk') fun r hr c hc => ?_
    have hleft : l.toNat + 6 ≤ 192 := hin
    let i : Fin 8 × Fin 192 := (⟨1 + r, by omega⟩, ⟨l.toNat + c, by omega⟩)
    obtain ⟨hne, hseen⟩ := paint_in_box (ax_boxes s stat).1 (hmem s stat k hk) (i := i) hr hc rfl rfl p
    obtain ⟨-, hseen'⟩ := paint_in_box (ax_boxes s' stat').1 (hmem s' stat' k' hk') (i := i) hr hc rfl rfl p'
    exact hseen.symm.trans ((heq i ⟨_, hmem s stat k hk, hne⟩).trans hseen')
  have hfirst : ∀ (s : Shown) (stat : ℕ), (1, 60, s.v / 2) ∈ ax_calls s stat ∧
      (1, 66, s.v % 2) ∈ ax_calls s stat := fun s stat => by
    simp [ax_calls]
  exact div_mod_inj 2 (hglyph 60 _ _ (hfirst s stat).1 (hfirst s' stat').1)
    (hglyph 66 _ _ (hfirst s stat).2 (hfirst s' stat').2)

/-- The values can be seen. -/
theorem values_alike {s s' : Shown} {stat stat' : ℕ} (hs : Legible s stat) (hs' : Legible s' stat')
    {p p' : Fin 8 × Fin 192 → UInt8} (heq : ∀ i, (∃ x ∈ ax_placed s stat, layer x i ≠ none) →
      paint ((ax_placed s stat).map layer) p i = paint ((ax_placed s' stat').map layer) p' i) :
    Same s s' stat stat' := by
  have hv := version_alike hs hs' heq
  have hboxes : (ax_placed s stat).map Prod.fst = (ax_placed s' stat').map Prod.fst := by
    rw [ax_placed_boxes, hv, ← ax_placed_boxes]
  have halike := paint_alike hboxes (ax_boxes s stat).1 (fun b hb => ((ax_boxes s stat).2 b hb).1) heq
  obtain ⟨h₁, hrest⟩ := List.forall₂_cons.mp halike
  obtain ⟨h₂, hrest⟩ := List.forall₂_cons.mp hrest
  obtain ⟨h₃, hcalls⟩ := List.forall₂_cons.mp hrest
  obtain ⟨hd₁, hd₂, hd₃, hrssi⟩ := rssi_digits hs.rssi
  obtain ⟨hd₁', hd₂', hd₃', hrssi'⟩ := rssi_digits hs'.rssi
  have hcalls := calls_alike (ax_calls_used hs) (ax_calls_used hs') (congrArg (List.drop 3) hboxes) hcalls
  obtain ⟨hv, hmsid, hmsv, hdata, haddr, hstat⟩ := (ax_calls_iff hs hs').mp hcalls
  refine ⟨hv, hmsid, hmsv, hdata, ?_, haddr, hstat⟩
  rw [hrssi, hrssi', zm16_32_ink_inj hd₁ hd₁' h₁, zm16_32_ink_inj hd₂ hd₂' h₂, zm16_32_ink_inj hd₃ hd₃' h₃]

/-- The same values look the same. -/
theorem placed_of_same {s s' : Shown} {stat stat' : ℕ} (hs : Legible s stat) (hs' : Legible s' stat')
    (h : Same s s' stat stat') : ax_placed s stat = ax_placed s' stat' := by
  obtain ⟨hd₁, hd₂, hd₃, hrssi⟩ := rssi_digits hs.rssi
  obtain ⟨hd₁', hd₂', hd₃', hrssi'⟩ := rssi_digits hs'.rssi
  have heq := h.rssi
  rw [ax_placed, (ax_calls_iff hs hs').mpr ⟨h.v, h.msid, h.msv, h.data, h.addr, h.stat⟩, rssi_boxes,
    show s.rssi.tmod 10 = s'.rssi.tmod 10 by omega,
    show (s.rssi.tmod 100).tdiv 10 = (s'.rssi.tmod 100).tdiv 10 by omega,
    show (s.rssi.tmod 1000).tdiv 100 = (s'.rssi.tmod 1000).tdiv 100 by omega]
  rfl

/-! ### The time -/

def time_chars : List UInt8 := "0123456789-: ".toList.map chr

theorem time_ink_alphabet (c : UInt8) (hc : c ∈ time_chars) (c' : UInt8) (hc' : c' ∈ time_chars)
    (h : ∀ r < 1, ∀ j < 6,
      zm6_8_ink (get_zf68_number c) 0 r j = zm6_8_ink (get_zf68_number c') 0 r j) : c = c' := by
  have hall : ∀ c ∈ time_chars, c ∈ my_zf6_8 ∧ c ≠ 'O'.toUInt8 :=
    List.all_iff_forall_prop.mp (by decide +kernel)
  obtain ⟨hmem, hO⟩ := hall c hc
  obtain ⟨hmem', hO'⟩ := hall c' hc'
  rcases zm6_8_ink_alphabet c hmem c' hmem' h with rfl | ⟨heq, -⟩ | ⟨-, heq⟩
  · rfl
  · exact absurd heq hO
  · exact absurd heq hO'

theorem time_digit {d : UInt8} (h : d < 10) : d + chr '0' ∈ time_chars := by
  have hall : ∀ k : Fin 10, UInt8.ofNat k.1 + chr '0' ∈ time_chars := by decide
  have hd := hall ⟨d.toNat, h⟩
  rwa [UInt8.ofNat_toNat] at hd

theorem ax_time_text_length (t : Vector UInt8 7) : (ax_time_text t).length = 19 := rfl

theorem ax_time_text_mem {t : Vector UInt8 7} (ht : ∀ i, t.get i < 100) :
    ∀ c ∈ ax_time_text t, c ∈ time_chars := by
  have htwo : ∀ i : Fin 7, t.get i / 10 + chr '0' ∈ time_chars ∧ t.get i % 10 + chr '0' ∈ time_chars := by
    intro i
    have hi : (t.get i).toNat < 100 := ht i
    constructor
    · apply time_digit
      rw [UInt8.lt_iff_toNat_lt, UInt8.toNat_div]
      show (t.get i).toNat / 10 < 10
      omega
    · apply time_digit
      rw [UInt8.lt_iff_toNat_lt, UInt8.toNat_mod]
      exact Nat.mod_lt _ (by decide)
  have hmarks : chr '2' ∈ time_chars ∧ chr '0' ∈ time_chars ∧ chr '-' ∈ time_chars ∧ chr ' ' ∈ time_chars ∧
      chr ':' ∈ time_chars := by decide +kernel
  unfold ax_time_text
  dsimp only
  simp only [List.forall_mem_append, htwo, List.forall_mem_cons, hmarks, and_true,
    List.not_mem_nil, false_implies, implies_true]

theorem ax_time_text_iff (t t' : Vector UInt8 7) :
    ax_time_text t = ax_time_text t' ↔ ∀ i, i ≠ 3 → t.get i = t'.get i := by
  constructor
  · intro h
    simp only [ax_time_text, List.cons_append, List.nil_append, List.cons.injEq, true_and, and_true,
      UInt8.add_left_inj] at h
    obtain ⟨h₁, h₂, h₃, h₄, h₅, h₆, h₇, h₈, h₉, h₁₀, h₁₁, h₁₂⟩ := h
    intro i hi
    fin_cases i
    · exact div_mod_inj 10 h₁₁ h₁₂
    · exact div_mod_inj 10 h₉ h₁₀
    · exact div_mod_inj 10 h₇ h₈
    · exact absurd rfl hi
    · exact div_mod_inj 10 h₅ h₆
    · exact div_mod_inj 10 h₃ h₄
    · exact div_mod_inj 10 h₁ h₂
  · intro h
    simp only [ax_time_text]
    rw [h 0 (by decide), h 1 (by decide), h 2 (by decide), h 4 (by decide), h 5 (by decide),
      h 6 (by decide)]

/-- The boxes of the time. -/
def time_placed (t : Vector UInt8 7) : List (Placed UInt8) :=
  text (fun c => zm6_8_ink (get_zf68_number c) 0) 1 6 0 0 (ax_time_text t)

theorem ax_time_show_draws (t : Vector UInt8 7) {n : UInt8} {r : ℕ} (h : ¬ (n < 20 ∧ r = 1)) :
    (ax_time_show t n r).Draws (time_placed t) := by
  rw [ax_time_show, if_neg h]
  exact lcd_show_zf6_8_draws (by decide) (by rw [ax_time_text_length]; decide)

/-! ### The labels -/

/-- Something is drawn that leaves the time alone. -/
def DrawsOff (o : Out) : Prop := ∃ xs, o.Draws xs ∧ ∀ b ∈ xs.map Prod.fst, b.Apart ⟨0, 0, 1, 114⟩

theorem DrawsOff.seq {o o' : Out} (h : DrawsOff o) (h' : DrawsOff o') : DrawsOff (o.seq o') := by
  obtain ⟨xs, hxs, hoff⟩ := h
  obtain ⟨ys, hys, hoff'⟩ := h'
  refine ⟨xs ++ ys, hxs.seq hys, ?_⟩
  rw [List.map_append, List.forall_mem_append]
  exact ⟨hoff, hoff'⟩

theorem DrawsOff.text {y : UInt8} (h1 : 1 ≤ y.toNat) (h7 : y.toNat ≤ 7) {t : List UInt8}
    (ht : 6 * t.length ≤ 192) : DrawsOff (lcd_show_zf6_8 y 0 t) := by
  refine ⟨_, lcd_show_zf6_8_draws h7 (by show 0 + _ ≤ 192; omega), fun b hb => ?_⟩
  refine .inr (.inl ?_)
  rw [strip_top _ _ _ _ b hb]
  exact h1

theorem DrawsOff.glyph {y l k : UInt8} (hk : k.toNat < 15) (hy : y.toNat ≤ 4) (hl : 114 ≤ l.toNat)
    (hl' : l.toNat + 16 ≤ 192) : DrawsOff (lcd_show16_32 y l k) := by
  refine ⟨_, lcd_show16_32_draws hk hy hl', fun b hb => ?_⟩
  rw [List.mem_singleton.mp hb]
  exact .inr (.inr (.inr (by show 0 + 114 ≤ l.toNat; omega)))

theorem ax_labels_draws : DrawsOff ax_labels := by
  simp only [ax_labels, Out.all, List.foldr_cons, List.foldr_nil]
  refine .seq (.text ?_ ?_ ?_) <| .seq (.text ?_ ?_ ?_) <| .seq (.text ?_ ?_ ?_) <|
    .seq (.text ?_ ?_ ?_) <| .seq (.text ?_ ?_ ?_) <| .seq (.text ?_ ?_ ?_) <| .seq (.text ?_ ?_ ?_) <|
    .seq (.glyph ?_ ?_ ?_ ?_) <| .seq (.glyph ?_ ?_ ?_ ?_) <| .seq (.glyph ?_ ?_ ?_ ?_) <|
    .seq (.glyph ?_ ?_ ?_ ?_) <| .seq (.glyph ?_ ?_ ?_ ?_) ⟨[], .nil, by simp⟩
  all_goals decide

/-- Boxes that leave the time alone. -/
theorem paint_off {xs : List (Placed UInt8)} (hoff : ∀ b ∈ xs.map Prod.fst, b.Apart ⟨0, 0, 1, 114⟩)
    {i : Fin 8 × Fin 192} (hi : i.1.1 = 0 ∧ i.2.1 < 114) (p : Fin 8 × Fin 192 → UInt8) :
    paint (xs.map layer) p i = p i := by
  apply paint_of_none
  intro f hf
  obtain ⟨x, hx, rfl⟩ := List.mem_map.mp hf
  have hb := hoff x.1 (List.mem_map_of_mem hx)
  unfold Box.Apart at hb
  exact rect_of_not_mem x.2 (by simp only at hb; omega)

theorem time_placed_in (t : Vector UInt8 7) : ((time_placed t).map Prod.fst).Pairwise Box.Apart ∧
    ∀ b ∈ (time_placed t).map Prod.fst, b.Within 1 114 :=
  ⟨(strip_apart _ _ _ _).2, text_within _ le_rfl (by rw [ax_time_text_length])⟩

/-- The time can be seen. -/
theorem time_alike {t t' : Vector UInt8 7} (ht : ∀ i, t.get i < 100) (ht' : ∀ i, t'.get i < 100)
    {p p' : Fin 8 × Fin 192 → UInt8} (heq : ∀ i : Fin 8 × Fin 192, i.1.1 = 0 ∧ i.2.1 < 114 →
      paint ((time_placed t).map layer) p i = paint ((time_placed t').map layer) p' i) :
    ∀ i, i ≠ 3 → t.get i = t'.get i := by
  have hlen : (ax_time_text t).length = (ax_time_text t').length := by
    rw [ax_time_text_length, ax_time_text_length]
  have hboxes : (time_placed t).map Prod.fst = (time_placed t').map Prod.fst :=
    text_boxes _ _ _ _ _ hlen
  have halike := paint_alike (m := 8) (n := 192) hboxes (time_placed_in t).1 ?_ fun i hi => heq i ?_
  · have h := text_alike time_ink_alphabet (ax_time_text_mem ht) (ax_time_text_mem ht') hlen halike
    rw [List.forall₂_eq_eq_eq] at h
    exact (ax_time_text_iff t t').mp h
  · intro b hb
    obtain ⟨htop, hleft⟩ := (time_placed_in t).2 b hb
    exact ⟨by omega, by omega⟩
  · obtain ⟨x, hx, hne⟩ := hi
    obtain ⟨htop, hleft⟩ := (time_placed_in t).2 x.1 (List.mem_map_of_mem hx)
    by_contra hout
    exact hne (rect_of_not_mem x.2 (by omega))

/-- The empty display. -/
def blank : Placed UInt8 := (⟨0, 0, 8, 192⟩, fun _ _ => 0)

/-- The turn from `w` to `w'` enters the log and shows the record `s`, while the date is not edited. -/
structure Entry (w w' : World) (s : Shown) : Prop where
  MS : w.MS = 10
  go : Task.main.go w = some w'
  screen : w'.screen = some s
  legible : Legible s (stat_number w')
  time : ∀ i, w'.my_time.get i < 100
  date : ¬ (UInt8.ofNat w.time_number < 20 ∧ w.reverse = 1)

theorem entry_draws : ∃ labels : List (Placed UInt8),
    (∀ b ∈ labels.map Prod.fst, b.Apart ⟨0, 0, 1, 114⟩) ∧ ∀ {w w' : World} {s : Shown}, Entry w w' s →
      (MS_thread_ax_start w.entered).Draws ([blank] ++ (time_placed w'.my_time ++
        ((labels ++ ax_placed s (stat_number w')) ++ []))) := by
  obtain ⟨labels, hlabels, hoff⟩ := ax_labels_draws
  refine ⟨labels, hoff, fun {w w' s} h => ?_⟩
  rw [MS_thread_ax_start_screen h.MS h.go, log_screen, h.screen]
  simp only [Out.all, List.foldr_cons, List.foldr_nil]
  exact (Dispgraphic_draws 0x00).seq
    ((ax_time_show_draws _ h.date).seq ((hlabels.seq (show_ax_data_draws h.legible)).seq .nil))

/-- **The screen of the radio log shows exactly its values**: whatever the displays showed before, two of
them look the same behind the turns that enter the log if and only if the date, the time and the digits
and glyphs of the record and of the last slot are the same. -/
theorem ax_screen_iff {w₁ w₁' w₂ w₂' : World} {s₁ s₂ : Shown} (h₁ : Entry w₁ w₁' s₁)
    (h₂ : Entry w₂ w₂' s₂) {v₁ v₂ : Fin 8 × Fin 192 → UInt8}
    (hv₁ : (MS_thread_ax_start w₁.entered).SeenIn v₁)
    (hv₂ : (MS_thread_ax_start w₂.entered).SeenIn v₂) :
    v₁ = v₂ ↔ (∀ i, i ≠ 3 → w₁'.my_time.get i = w₂'.my_time.get i) ∧
      Same s₁ s₂ (stat_number w₁') (stat_number w₂') := by
  obtain ⟨labels, hoff, hdraws⟩ := entry_draws
  obtain ⟨p, hp⟩ := (hdraws h₁).seenIn hv₁
  obtain ⟨p', hp'⟩ := (hdraws h₂).seenIn hv₂
  rw [hp, hp']
  simp only [List.append_nil, List.map_append, paint_append]
  constructor
  · intro heq
    refine ⟨@time_alike _ _ h₁.time h₂.time (paint ([blank].map layer) p.view)
      (paint ([blank].map layer) p'.view) fun i hi => ?_,
      values_alike h₁.legible h₂.legible fun i _ => congrFun heq i⟩
    have hi' := congrFun heq i
    rwa [paint_off (fun b hb => ((ax_boxes s₁ _).2 b hb).2) hi, paint_off hoff hi,
      paint_off (fun b hb => ((ax_boxes s₂ _).2 b hb).2) hi, paint_off hoff hi] at hi'
  · rintro ⟨htime, hsame⟩
    have hblank : paint ([blank].map layer) p.view = paint ([blank].map layer) p'.view := by
      funext i
      refine paint_congr ⟨layer blank, List.mem_cons_self, ?_⟩ _ _
      rw [show layer blank i = some 0 from rect_of_mem (r := i.1) (c := i.2) _ i.1.2 i.2.2
        (Nat.zero_add _).symm (Nat.zero_add _).symm]
      exact Option.some_ne_none _
    rw [hblank, placed_of_same h₁.legible h₂.legible hsame, time_placed,
      (ax_time_text_iff w₁'.my_time w₂'.my_time).mpr htime, time_placed]

/-- The files behind one packet. -/
def one_record (msid : ℕ) : Fs :=
  (appendAll [.ax 1 (Vector.replicate 10 0) msid 5 (Vector.replicate 7 0) 60] (Dfs.start Fs.empty)).fs

/-- What is shown of it. -/
def one_shown (msid : ℕ) : Shown := ⟨msid, 5, 1, Vector.replicate 10 0, 60, 0⟩

theorem one_shown_legible (msid : ℕ) : Legible (one_shown msid) 1 where
  v := show (1 : UInt8) < 60 by decide
  data := show ∀ i, (Vector.replicate 10 (0 : UInt8)).get i < 30 by decide
  rssi := show (0 : ℤ) ≤ 60 by decide
  addr := show 0 < 0x10000 by decide
  stat := by decide

/-- The log with one record is entered by UP and OK. -/
theorem one_record_entry (msid : ℕ)
    (hbefore : (state_of (one_record msid) (keypad (log_keys 16)) (fun _ => .main) 3).map
      (fun w => (w.MS, w.reverse)) = some (10, 0))
    (hbehind : (state_of (one_record msid) (keypad (log_keys 16)) (fun _ => .main) 4).map
      (fun w => (w.screen, stat_number w, w.my_time)) =
        some (some (one_shown msid), 1, Vector.replicate 7 0)) :
    ∃ w w', state_of (one_record msid) (keypad (log_keys 16)) (fun _ => .main) 3 = some w ∧
      Entry w w' (one_shown msid) ∧ stat_number w' = 1 ∧ w'.my_time = Vector.replicate 7 0 := by
  obtain ⟨w, hw, hview⟩ := Option.map_eq_some_iff.mp hbefore
  obtain ⟨w', hw', hview'⟩ := Option.map_eq_some_iff.mp hbehind
  simp only [Prod.mk.injEq] at hview hview'
  obtain ⟨hM, hreverse⟩ := hview
  obtain ⟨hscreen, hstat, htime⟩ := hview'
  rw [state_of_succ hw] at hw'
  refine ⟨w, w', hw, ⟨hM, hw', hscreen, hstat ▸ one_shown_legible msid, ?_, fun h => ?_⟩, hstat, htime⟩
  · rw [htime]
    decide
  · rw [hreverse] at h
    exact absurd h.2 (by decide)

/-- Of the serial `8` the screen differs from that of `9`, but not from that of `1000008`. -/
theorem ax_screen_iff_serials : ∃ w₁ w₂ w₃ v₁ v₂ v₃,
    state_of (one_record 8) (keypad (log_keys 16)) (fun _ => .main) 3 = some w₁ ∧
    state_of (one_record 9) (keypad (log_keys 16)) (fun _ => .main) 3 = some w₂ ∧
    state_of (one_record 1000008) (keypad (log_keys 16)) (fun _ => .main) 3 = some w₃ ∧
    (MS_thread_ax_start w₁.entered).SeenIn v₁ ∧ (MS_thread_ax_start w₂.entered).SeenIn v₂ ∧
      (MS_thread_ax_start w₃.entered).SeenIn v₃ ∧ v₁ ≠ v₂ ∧ v₁ = v₃ := by
  obtain ⟨w₁, w₁', hw₁, h₁, hstat₁, ht₁⟩ :=
    one_record_entry 8 (by decide +kernel) (by decide +kernel)
  obtain ⟨w₂, w₂', hw₂, h₂, hstat₂, ht₂⟩ :=
    one_record_entry 9 (by decide +kernel) (by decide +kernel)
  obtain ⟨w₃, w₃', hw₃, h₃, hstat₃, ht₃⟩ :=
    one_record_entry 1000008 (by decide +kernel) (by decide +kernel)
  obtain ⟨labels, -, hdraws⟩ := entry_draws
  obtain ⟨v₁, hv₁⟩ := (hdraws h₁).exists_seenIn
  obtain ⟨v₂, hv₂⟩ := (hdraws h₂).exists_seenIn
  obtain ⟨v₃, hv₃⟩ := (hdraws h₃).exists_seenIn
  refine ⟨w₁, w₂, w₃, v₁, v₂, v₃, hw₁, hw₂, hw₃, hv₁, hv₂, hv₃, fun heq => ?_, ?_⟩
  · have hmsid := ((ax_screen_iff h₁ h₂ hv₁ hv₂).mp heq).2.msid
    rw [if_neg (by decide)] at hmsid
    exact absurd hmsid (by decide)
  · refine (ax_screen_iff h₁ h₃ hv₁ hv₃).mpr ⟨fun i _ => by rw [ht₁, ht₃], ?_⟩
    rw [hstat₁, hstat₃]
    exact ⟨rfl, by decide, rfl, rfl, rfl, rfl, rfl⟩

end Lcd

end MeterTester
