import MeterTester.Numeral
import MeterTester.RingLog
import MeterTester.Turn

/-! # The serial numbers and their file

`/MS_MSID.txt` holds twenty digits: the next serials of the three modes, of six, eight and six
digits.  `read_MSID` is what the program makes of its bytes, `World.digits` are the digits in the
three lists.  When the file operations work, `get_MSID` delivers the former and `set_MSID` makes it
the latter.

A serial is a number: `serial c` cuts the digits of one mode out of the twenty, as a record shows
them, and `MS_thread_return` turns the numeral of `n` into the one of `n + 1`
(`next_number_value`, `Storing.cells_eq`). -/

namespace MeterTester

open Interleave Interleave.Prog World Dfs SlotFile

/-! ### Reading and writing the file -/

/-- The twenty digits as the program reads them. -/
def read_MSID (bs : List UInt8) : List UInt8 :=
  ((if bs.length < 20 then default_MSID else bs).take 20).map fun b => if b < 10 then b else 1

section file
variable (bs : List UInt8)

@[simp] theorem read_MSID_length : (read_MSID bs).length = 20 := by
  unfold read_MSID
  split_ifs with h
  · rfl
  · simp
    omega

theorem read_MSID_lt : ∀ d ∈ read_MSID bs, d < 10 := by
  intro d hd
  obtain ⟨b, -, rfl⟩ := List.mem_map.mp hd
  split_ifs with hb
  · exact hb
  · decide

/-- Twenty digits at the front of the file are read as they are. -/
theorem read_MSID_append {ds : List UInt8} (hlen : ds.length = 20) (hlt : ∀ d ∈ ds, d < 10) :
    read_MSID (ds ++ bs) = ds := by
  have hmap : ds.map (fun b => if b < 10 then b else 1) = ds.map id :=
    List.map_congr_left fun d hd => if_pos (hlt d hd)
  rw [read_MSID, if_neg (by simp [hlen]), List.take_append_of_le_length (by omega),
    List.take_of_length_le (by omega), hmap, List.map_id]

/-- The numbers of the buffer when `bs` is stored in front of it. -/
theorem MSID_of_buffer_load {bs : List UInt8} (h20 : 20 ≤ bs.length) (d : Dfs) :
    (d.load bs).MSID_of_buffer.toList = (bs.take 20).map fun b => if b < 10 then b else 1 := by
  have hbuf : ∀ (i : ℕ) (hi : i < 20), (fill d.buffer bs)[i] = bs[i] := fun i hi => by
    rw [fill_getElem _ _ _ (by omega), dif_pos (by omega)]
  apply List.ext_getElem (by simp [h20])
  intro i h₁ h₂
  simp [MSID_of_buffer, load, hbuf i (by simpa using h₁)]

section works
variable {d : Dfs} (h : d.fs.Works)
include h

/-- `get_MSID` delivers what the file is read as, and leaves a file that is read the same. -/
theorem get_MSID_works (data : Vector UInt8 20) :
    (d.get_MSID data).1.toList = read_MSID (d.fs.content .MS_MSID) ∧
      read_MSID ((d.get_MSID data).2.fs.content .MS_MSID) = read_MSID (d.fs.content .MS_MSID) ∧
      20 ≤ ((d.get_MSID data).2.fs.content .MS_MSID).length := by
  have hworks : (d.fs.openFile .MS_MSID true).2.Works := h.of_openOk (Fs.openOk_openFile _ _ _)
  have hfile := h.file_openFile .MS_MSID
  have hcontent := d.fs.content_openFile .MS_MSID .MS_MSID true
  rw [Dfs.get_MSID, opening_works h, ← hcontent]
  -- from here on the opened file counts
  generalize (d.fs.openFile .MS_MSID true).2 = fs at hworks hfile
  dsimp only
  have hlen : (fs.read .MS_MSID 0 80).length = min 80 (fs.content .MS_MSID).length := by
    rw [Fs.read, List.drop_zero, List.length_take]
  by_cases hshort : (fs.content .MS_MSID).length < 20
  · rw [if_pos (by omega), opening_existing hworks hfile]
    have hwritten : ((fs.openFile .MS_MSID false).2.write .MS_MSID 0 default_MSID).content
        .MS_MSID = default_MSID := by
      have hdrop : (fs.content .MS_MSID).drop (0 + default_MSID.length) = [] :=
        List.drop_eq_nil_of_le (by simp [default_MSID]; omega)
      rw [Fs.content_write, if_pos rfl, Fs.content_openFile, writeAt, hdrop]
      rfl
    have hread : read_MSID (fs.content .MS_MSID) = read_MSID default_MSID := by
      rw [read_MSID, if_pos hshort]
      rfl
    refine ⟨?_, ?_, ?_⟩
    · rw [hread]
      exact MSID_of_buffer_load (by decide) _
    · rw [hread]
      exact congrArg read_MSID hwritten
    · exact (by decide : 20 ≤ default_MSID.length).trans_eq (congrArg List.length hwritten).symm
  · rw [if_neg (by omega)]
    have htake : (fs.read .MS_MSID 0 80).take 20 = (fs.content .MS_MSID).take 20 := by
      rw [Fs.read, List.drop_zero, List.take_take]
      rfl
    refine ⟨?_, rfl, by simpa using hshort⟩
    rw [read_MSID, if_neg hshort, MSID_of_buffer_load (by omega), htake]

/-- `set_MSID` writes the digits over the front of the file. -/
theorem set_MSID_content (msid1 msid2 msid3 : Vector UInt8 10) (hfile : d.fs.file .MS_MSID ≠ none) :
    (d.set_MSID msid1 msid2 msid3).fs.content .MS_MSID =
      MSID_bytes msid1 msid2 msid3 ++ (d.fs.content .MS_MSID).drop 20 := by
  rw [Dfs.set_MSID, opening_existing h hfile]
  simp [writeAt, MSID_bytes, cells]

/-- `set_MSID` makes the digits what the file is read as. -/
theorem set_MSID_works {msid1 msid2 msid3 : Vector UInt8 10} (hfile : d.fs.file .MS_MSID ≠ none)
    (hlt : ∀ b ∈ MSID_bytes msid1 msid2 msid3, b < 10) :
    read_MSID ((d.set_MSID msid1 msid2 msid3).fs.content .MS_MSID) = MSID_bytes msid1 msid2 msid3 ∧
      20 ≤ ((d.set_MSID msid1 msid2 msid3).fs.content .MS_MSID).length := by
  have hlen : (MSID_bytes msid1 msid2 msid3).length = 20 := by simp [MSID_bytes, cells]
  rw [set_MSID_content h msid1 msid2 msid3 hfile]
  exact ⟨read_MSID_append _ hlen hlt, by simp [hlen]⟩

end works

end file

/-! ### Serials -/

/-- The length of the serials of a mode. -/
def serial_len (choose : ℕ) : ℕ := if choose = 1 then 8 else 6

theorem serial_len_bounds (choose : ℕ) : 1 ≤ serial_len choose ∧ serial_len choose ≤ 8 := by
  unfold serial_len
  split_ifs <;> omega

theorem serial_len_le (choose : ℕ) : serial_len choose ≤ 9 := by
  have := serial_len_bounds choose
  omega

/-- Where the digits of a mode begin among the twenty. -/
def serial_at (choose : ℕ) : ℕ := if choose = 0 then 0 else if choose = 1 then 6 else 14

/-- The digits of a mode among the twenty, as a record shows them. -/
def serial (choose : ℕ) (ds : List UInt8) : List UInt8 :=
  ((ds.drop (serial_at choose)).take (serial_len choose)).map (· + chr '0')

/-- The digits in the three lists. -/
def World.digits (w : World) : List UInt8 :=
  MSID_bytes (w.zf_list6 0) (w.zf_list6 1) (w.zf_list6 2)

/-- A list of decimal digits as a number. -/
def number_of (ds : List UInt8) : ℕ := Numeral.value 10 (ds.map UInt8.toNat)

section serials

theorem dec_digits_eq (len n : ℕ) :
    dec_digits len n = (Numeral.digits 10 len n).map fun d => UInt8.ofNat d + chr '0' := by
  induction len generalizing n with
  | zero => rfl
  | succ len ih => simp [dec_digits, Numeral.digits, ih]

/-- Different numbers have different numerals, up to the length. -/
theorem dec_digits_eq_iff (len n m : ℕ) :
    dec_digits len n = dec_digits len m ↔ n ≡ m [MOD 10 ^ len] := by
  rw [← Numeral.digits_eq_iff, dec_digits_eq, dec_digits_eq]
  refine ⟨fun h => ?_, fun h => by rw [h]⟩
  have hback : ∀ k, (Numeral.digits 10 len k).map ((fun c => (c - chr '0').toNat) ∘
      fun d => UInt8.ofNat d + chr '0') = Numeral.digits 10 len k := by
    intro k
    refine (List.map_congr_left fun d hd => ?_).trans (List.map_id _)
    have hlt : d < 10 := Numeral.digits_lt (by decide) len k d hd
    interval_cases d <;> rfl
  have h' := congrArg (List.map fun c => (c - chr '0').toNat) h
  rwa [List.map_map, List.map_map, hback, hback] at h'

/-- Every list of digits is a numeral. -/
theorem dec_digits_number_of (ds : List UInt8) (h : ∀ d ∈ ds, d < 10) :
    dec_digits ds.length (number_of ds) = ds.map (· + chr '0') := by
  have hlt : ∀ d ∈ ds.map UInt8.toNat, d < 10 := by
    intro d hd
    obtain ⟨b, hb, rfl⟩ := List.mem_map.mp hd
    exact h b hb
  have hval := Numeral.digits_value (by decide) hlt
  rw [List.length_map] at hval
  rw [dec_digits_eq, number_of, hval, List.map_map]
  exact List.map_congr_left fun d _ => by simp

theorem serial_numeral {choose : ℕ} {ds : List UInt8} (hc : choose < 3) (hlen : ds.length = 20)
    (h : ∀ d ∈ ds, d < 10) : ∃ n, serial choose ds = dec_digits (serial_len choose) n := by
  have hlt : ∀ d ∈ (ds.drop (serial_at choose)).take (serial_len choose), d < 10 := fun d hd =>
    h d (List.mem_of_mem_drop (List.mem_of_mem_take hd))
  have hlen : ((ds.drop (serial_at choose)).take (serial_len choose)).length =
      serial_len choose := by
    rw [List.length_take, List.length_drop, hlen]
    interval_cases choose <;> rfl
  have hnum := dec_digits_number_of _ hlt
  rw [hlen] at hnum
  exact ⟨_, hnum.symm⟩

variable {choose : ℕ} (hc : choose < 3) (zf_list6 : ℕ → Vector UInt8 10)
include hc

/-- The serial of a mode is in the cells of its list. -/
theorem serial_MSID_bytes :
    serial choose (MSID_bytes (zf_list6 0) (zf_list6 1) (zf_list6 2)) =
      (cells (zf_list6 choose) (serial_len choose)).map (· - 100 + chr '0') := by
  have hlen : ∀ r n, n ≤ 9 → (cells (zf_list6 r) n).length = n := fun r n h => cells_length _ h
  have hnil : ∀ r, (cells (zf_list6 r) 6).drop 14 = [] := fun r =>
    List.drop_eq_nil_of_le (by rw [hlen r 6 (by omega)]; omega)
  interval_cases choose <;>
    simp [serial, MSID_bytes, serial_at, serial_len, hlen, hnil, List.drop_append,
      ← List.map_drop, Function.comp_def]

theorem mem_MSID_bytes {b : UInt8} (hb : b ∈ cells (zf_list6 choose) (serial_len choose)) :
    b - 100 ∈ MSID_bytes (zf_list6 0) (zf_list6 1) (zf_list6 2) := by
  refine List.mem_map.mpr ⟨b, ?_, rfl⟩
  interval_cases choose <;> simp only [List.mem_append]
  · exact .inl (.inl hb)
  · exact .inl (.inr hb)
  · exact .inr hb

omit hc in
/-- The digits are those of the three lists. -/
theorem MSID_bytes_lt
    (h : ∀ c < 3, ∀ b ∈ cells (zf_list6 c) (serial_len c), b - 100 < 10) :
    ∀ d ∈ MSID_bytes (zf_list6 0) (zf_list6 1) (zf_list6 2), d < 10 := by
  intro d hd
  obtain ⟨b, hb, rfl⟩ := List.mem_map.mp hd
  rcases List.mem_append.mp hb with hb | hb
  · rcases List.mem_append.mp hb with hb | hb
    · exact h 0 (by decide) b hb
    · exact h 1 (by decide) b hb
  · exact h 2 (by decide) b hb

end serials

/-! ### The next serial -/

theorem cells_eq_range (zf_list : Vector UInt8 10) {len : ℕ} (h : len ≤ 9) :
    cells zf_list len = (List.range len).map fun i => zf_list.toList.getD (i + 1) 0 := by
  apply List.ext_getElem (by rw [cells_length _ h]; simp)
  intro i h₁ h₂
  have hi : i + 1 < 10 := by have := cells_length zf_list h; omega
  simp [cells, hi]

/-- In a cell with a digit, the subtraction of `100` does not wrap around. -/
theorem cell_number_digit {zf_list : List UInt8} {i : ℕ} (h : zf_list.getD i 0 - 100 < 10) :
    cell_number zf_list i = (zf_list.getD i 0 - 100).toNat := by
  generalize hx : zf_list.getD i 0 = x at h
  rw [cell_number, hx]
  have hlt : (x - 100).toNat < 10 := h
  have hsub : (x - 100).toNat = (256 - 100 + x.toNat) % 256 := UInt8.toNat_sub x 100
  have := x.toNat_lt
  omega

/-- Digit cells, as the loops over a list read them. -/
theorem cell_numbers {zf_list : Vector UInt8 10} {len : ℕ} (h9 : len ≤ 9)
    (hlt : ∀ b ∈ cells zf_list len, b - 100 < 10) :
    (∀ i < len, cell_number zf_list.toList (i + 1) < 10) ∧
      Numeral.value 10 ((List.range len).map fun i => cell_number zf_list.toList (i + 1)) =
        number_of ((cells zf_list len).map (· - 100)) := by
  have hmem : ∀ i < len, zf_list.toList.getD (i + 1) 0 - 100 < 10 := fun i hi => hlt _ (by
    rw [cells_eq_range _ h9]
    exact List.mem_map.mpr ⟨i, List.mem_range.mpr hi, rfl⟩)
  have hcell : ∀ i < len, cell_number zf_list.toList (i + 1) =
      (zf_list.toList.getD (i + 1) 0 - 100).toNat := fun i hi => cell_number_digit (hmem i hi)
  refine ⟨fun i hi => by rw [hcell i hi]; exact hmem i hi, ?_⟩
  rw [number_of, cells_eq_range _ h9, List.map_map, List.map_map]
  exact congrArg _ (List.map_congr_left fun i hi => hcell i (List.mem_range.mp hi))

section increment
variable {w : World} {len : ℕ}

/-- The number that `MS_thread_return` computes, for digit cells. -/
theorem next_number_value (h1 : 1 ≤ len) (h8 : len ≤ 8)
    (hlt : ∀ b ∈ cells (w.zf_list6 w.choose) len, b - 100 < 10) :
    (next_number len w).number =
      number_of ((cells (w.zf_list6 w.choose) len).map (· - 100)) + 1 := by
  obtain ⟨hdigit, hvalue⟩ := cell_numbers (by omega) hlt
  have hpow : 10 ^ len ≤ 10 ^ 8 := Nat.pow_le_pow_right (by decide) h8
  refine Numeral.foldl_value (b := 10) (N := 0x100000000) hdigit (by omega)
    (fun n i hi => if_pos (by omega)) (by omega) fun n hn => ?_
  have hlt := Numeral.value_range_lt hdigit le_rfl
  rw [if_neg (lt_irrefl _), hn, hvalue]
  rw [hvalue] at hlt
  omega

/-- The lowest `k` digits of `m` are in the cells of the mode `c`. -/
structure Storing (c len m : ℕ) (zf_list6 : ℕ → Vector UInt8 10) (k : ℕ) (w : World) : Prop where
  choose : w.choose = c
  number : w.number = m / 10 ^ k
  others : ∀ row, row ≠ c → w.zf_list6 row = zf_list6 row
  cells : ∀ i < k, (w.zf_list6 c)[len - i]? = some (UInt8.ofNat (m / 10 ^ i % 10) + 100)

section storing
variable {c m k : ℕ} {zf_list6 : ℕ → Vector UInt8 10}

theorem Storing.store_digit (h9 : len ≤ 9) (hk : k < len) (h : Storing c len m zf_list6 k w) :
    Storing c len m zf_list6 (k + 1) (store_digit len k w) := by
  have hrow : ∀ row, (MeterTester.store_digit len k w).zf_list6 row =
      if row = c then (w.zf_list6 c).setIfInBounds (len - k) (UInt8.ofNat (m / 10 ^ k % 10) + 100)
      else w.zf_list6 row := fun row => by
    simp only [MeterTester.store_digit, set_list6, h.choose, h.number]
    split_ifs with hr
    · rw [hr]
    · rfl
  refine ⟨h.choose, ?_, fun row hr => ?_, fun i hi => ?_⟩
  · rw [pow_succ, ← Nat.div_div_eq_div_mul, ← h.number]
    rfl
  · rw [hrow, if_neg hr]
    exact h.others row hr
  · rw [hrow, if_pos rfl]
    by_cases hik : i = k
    · subst hik
      simp [show len - i < 10 by omega]
    · rw [Vector.getElem?_setIfInBounds, if_neg (by omega)]
      exact h.cells i (by omega)

theorem Storing.cells_eq (h9 : len ≤ 9) (h : Storing c len m zf_list6 len w) :
    Dfs.cells (w.zf_list6 c) len = (Numeral.digits 10 len m).map fun d => UInt8.ofNat d + 100 := by
  apply List.ext_getElem?
  intro i
  by_cases hi : i < len
  · have hcell := h.cells (len - 1 - i) (by omega)
    rw [show len - (len - 1 - i) = 1 + i by omega] at hcell
    rw [List.getElem?_map, Numeral.digits_getElem? hi, Dfs.cells, List.getElem?_take_of_lt hi,
      List.getElem?_drop, Vector.getElem?_toList, hcell]
    rfl
  · rw [List.getElem?_eq_none (by rw [cells_length _ h9]; omega),
      List.getElem?_eq_none (by simp; omega)]

end storing

end increment

end MeterTester
