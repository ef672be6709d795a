import MeterTester.ReadBack
import MeterTester.Serial

/-! # The next serial, and the restart behind it: `MS_thread_return`, `MS_thread_init`

`MS_thread_return` takes the digits of the mode as a number, adds one and splits the number into
digits again; then it writes the digits of all modes to `/MS_MSID.txt`.  What `MS_thread_init` reads
from there are the same digits (`next_serial_restored`), and whatever else the file may contain, it
makes digits of it (`init_isDigits`). -/

namespace MeterTester

open Interleave Interleave.Prog World Dfs

/-! ### Digit cells -/

theorem isDigits_iff {zf_list : Vector UInt8 10} {len : ℕ} (h9 : len ≤ 9) :
    IsDigits zf_list len ↔ ∀ b ∈ cells zf_list len, b - 100 < 10 := by
  refine ⟨fun h => h.cells_lt h9, fun h i hi h1 hlen => ?_⟩
  have hb : zf_list[i] ∈ cells zf_list len := by
    rw [cells_eq_range _ h9]
    refine List.mem_map.mpr ⟨i - 1, List.mem_range.mpr (by omega), ?_⟩
    simp [show i - 1 + 1 = i by omega, hi]
  have hlt := h _ hb
  generalize zf_list[i] = x at hlt
  have hlt : (x - 100).toNat < 10 := hlt
  have hsub : (x - 100).toNat = (256 - 100 + x.toNat) % 256 := UInt8.toNat_sub x 100
  have := x.toNat_lt
  constructor
  · show 100 ≤ x.toNat
    omega
  · show x.toNat ≤ 109
    omega

/-- The twenty digits tell the cells of every mode. -/
theorem cells_eq_of_digits {z z' : ℕ → Vector UInt8 10}
    (h : MSID_bytes (z 0) (z 1) (z 2) = MSID_bytes (z' 0) (z' 1) (z' 2)) {c : ℕ} (hc : c < 3) :
    cells (z c) (serial_len c) = cells (z' c) (serial_len c) := by
  have hserial := congrArg (serial c) h
  rw [serial_MSID_bytes hc z, serial_MSID_bytes hc z'] at hserial
  refine List.map_injective_iff.mpr (fun a b hab => ?_) hserial
  have hback := congrArg (fun x => x - chr '0' + 100) hab
  simpa only [UInt8.add_sub_cancel, UInt8.sub_add_cancel] using hback

/-! ### The increment -/

/-- The lowest `k` digits of `m` are stored, and all else is as in `v`. -/
structure Splitting (v : World) (len m k : ℕ) (w : World) : Prop where
  storing : Storing v.choose len m v.zf_list6 k w
  dfs : w.dfs = v.dfs
  frame : ∀ i, (i = 0 ∨ len < i) → (w.zf_list6 v.choose)[i]? = (v.zf_list6 v.choose)[i]?

theorem Splitting.store_digit {v w : World} {len m k : ℕ} (h9 : len ≤ 9) (hk : k < len)
    (h : Splitting v len m k w) : Splitting v len m (k + 1) (store_digit len k w) := by
  refine ⟨h.storing.store_digit h9 hk, h.dfs, fun i hi => ?_⟩
  rw [← h.frame i hi]
  simp only [MeterTester.store_digit, set_list6, h.storing.choose, if_pos]
  rw [Vector.getElem?_setIfInBounds, if_neg (by omega)]

theorem Splitting.stored {v w : World} {len m : ℕ} (h9 : len ≤ 9) (h : Splitting v len m 0 w)
    (k : ℕ) (hk : k ≤ len) :
    Splitting v len m k ((List.range k).foldl (fun w i => MeterTester.store_digit len i w) w) := by
  induction k with
  | zero => exact h
  | succ k ih =>
      rw [List.range_succ, List.foldl_append]
      exact (ih (by omega)).store_digit h9 hk

/-- The increment ends with the digits of the next number. -/
theorem increment_exec (n : ℕ) {w : World} {len : ℕ} (h1 : 1 ≤ len) (h8 : len ≤ 8)
    (hz : IsDigits (w.zf_list6 w.choose) len) :
    ∃ w', (increment len).exec n w = some w' ∧
      Splitting w len (number_of ((cells (w.zf_list6 w.choose) len).map (· - 100)) + 1) len w' := by
  have hnumber := next_number_value h1 h8 (hz.cells_lt (by omega))
  refine ⟨(List.range len).foldl (fun w i => store_digit len i w) (next_number len w), ?_, ?_⟩
  · simp only [increment, exec_block_cons, exec_act, Option.bind_some, bind_exec_nil]
    exact exec_block_acts n _ _ _
  · have hstart : Splitting w len (number_of ((cells (w.zf_list6 w.choose) len).map (· - 100)) + 1) 0
        (next_number len w) := by
      refine ⟨⟨rfl, ?_, fun _ _ => rfl, fun i hi => absurd hi (by omega)⟩, rfl, fun _ _ => rfl⟩
      rw [hnumber, pow_zero, Nat.div_one]
    exact hstart.stored (by omega) len le_rfl

/-! ### The restart -/

/-- What the start makes of the serial-number file. -/
theorem MS_thread_init_exec (n : ℕ) (w : World) : ∃ w', MS_thread_init.exec n w = some w' ∧
    w'.zf_list6 = (store_MSID w.get_MSID).zf_list6 := by
  refine ⟨store_MSID { w with MS := 1, thread_time := 0, choose := 0 }.get_MSID, ?_, ?_⟩
  · simp only [MS_thread_init, exec_block_cons, exec_block_nil, exec_act, Option.bind_some]
  · simp only [store_MSID, World.get_MSID]

theorem get_MSID_cases (data : Vector UInt8 20) (d : Dfs) :
    (∃ d' : Dfs, (d.get_MSID data).1 = d'.MSID_of_buffer) ∨ (d.get_MSID data).1 = data := by
  unfold Dfs.get_MSID opening
  dsimp only
  by_cases h : (d.fs.openFile .MS_MSID true).1 = true
  · rw [if_pos h]
    exact .inl ⟨_, rfl⟩
  · rw [if_neg h]
    exact .inr rfl

theorem MSID_of_buffer_lt (d : Dfs) : ∀ x ∈ d.MSID_of_buffer.toList, x < 10 := by
  intro x hx
  rw [MSID_of_buffer, Vector.toList_ofFn, List.mem_ofFn] at hx
  obtain ⟨i, rfl⟩ := hx
  dsimp only
  split_ifs with hb
  · exact hb
  · decide

/-- Whatever `get_MSID` delivers are digits, if there were digits before. -/
theorem get_MSID_lt {w : World} (h : ∀ d ∈ w.MSID.toList, d < 10) :
    ∀ d ∈ w.get_MSID.MSID.toList, d < 10 := by
  obtain ⟨d', hd⟩ | hd := get_MSID_cases w.MSID w.dfs
  · rw [World.get_MSID, hd]
    exact MSID_of_buffer_lt d'
  · rw [World.get_MSID, hd]
    exact h

/-- The cells of every mode hold digits. -/
theorem store_MSID_isDigits {w : World} (h : ∀ d ∈ w.MSID.toList, d < 10) {c : ℕ} (hc : c < 3) :
    IsDigits ((store_MSID w).zf_list6 c) (serial_len c) := by
  rw [isDigits_iff (serial_len_le c)]
  intro b hb
  have hmem := mem_MSID_bytes hc (store_MSID w).zf_list6 hb
  rw [← World.digits, store_MSID_digits] at hmem
  exact h _ hmem

/-- The start leaves the cells outside of the digits alone. -/
theorem store_MSID_frame (w : World) {c i : ℕ} (hi : i = 0 ∨ serial_len c < i) :
    ((store_MSID w).zf_list6 c)[i]? = (w.zf_list6 c)[i]? := by
  by_cases h10 : i < 10
  · have hout : ¬ (c = 0 ∧ 1 ≤ i ∧ i ≤ 6) ∧ ¬ (c = 1 ∧ 1 ≤ i ∧ i ≤ 8) ∧
        ¬ (c = 2 ∧ 1 ≤ i ∧ i ≤ 6) := by
      unfold serial_len at hi
      split_ifs at hi <;> omega
    rw [Vector.getElem?_eq_getElem h10, Vector.getElem?_eq_getElem h10, store_MSID]
    dsimp only
    rw [Vector.getElem_ofFn, if_neg hout.1, if_neg hout.2.1, if_neg hout.2.2]
  · rw [Vector.getElem?_eq_none (by omega), Vector.getElem?_eq_none (by omega)]

/-- Everything but the digits is the same in the three lists. -/
def SameRest (z z' : ℕ → Vector UInt8 10) : Prop :=
  ∀ r < 3, ∀ i, (i = 0 ∨ serial_len r < i) → (z r)[i]? = (z' r)[i]?

theorem cells_getElem? (zf_list : Vector UInt8 10) {len i : ℕ} (hi : i < len) :
    (cells zf_list len)[i]? = zf_list[i + 1]? := by
  rw [cells, List.getElem?_take_of_lt hi, List.getElem?_drop, Nat.add_comm, Vector.getElem?_toList]

/-- A list is its digits and the rest. -/
theorem list_eq_of_digits {z z' : ℕ → Vector UInt8 10} {r : ℕ} (hr : r < 3)
    (hcells : cells (z r) (serial_len r) = cells (z' r) (serial_len r)) (hrest : SameRest z z') :
    z r = z' r := by
  apply Vector.ext
  intro i hi
  have hget : (z r)[i]? = (z' r)[i]? := by
    by_cases hcell : i = 0 ∨ serial_len r < i
    · exact hrest r hr i hcell
    · have hcell := congrArg (fun l => l[i - 1]?) hcells
      rwa [cells_getElem? _ (by omega), cells_getElem? _ (by omega),
        show i - 1 + 1 = i by omega] at hcell
  simpa [hi] using hget

/-- Whatever the files are, the started tester has digits. -/
theorem init_isDigits (fs : Fs) (devices : ℕ → Device) (n : ℕ) :
    ∃ w, MS_thread_init.exec n (booted fs devices) = some w ∧
      ∀ r < 3, IsDigits (w.zf_list6 r) (serial_len r) := by
  obtain ⟨w, hw, hz⟩ := MS_thread_init_exec n (booted fs devices)
  refine ⟨w, hw, fun r hr => ?_⟩
  rw [hz]
  refine store_MSID_isDigits (get_MSID_lt fun d hd => ?_) hr
  have hd : d = 0 := by simpa [booted, World.start] using hd
  rw [hd]
  decide

/-- The start restores the digits that the file is read as. -/
theorem init_restores {fs : Fs} (hfs : fs.Works) (devices : ℕ → Device) (n : ℕ)
    {z : ℕ → Vector UInt8 10} (hz : read_MSID (fs.content .MS_MSID) = MSID_bytes (z 0) (z 1) (z 2)) :
    ∃ w, MS_thread_init.exec n (booted fs devices) = some w ∧
      (∀ r < 3, cells (w.zf_list6 r) (serial_len r) = cells (z r) (serial_len r)) ∧
      SameRest w.zf_list6 zf_list6_start := by
  obtain ⟨w, hw, hlist⟩ := MS_thread_init_exec n (booted fs devices)
  have hworks : (booted fs devices).dfs.fs.Works := hfs.of_openOk (Dfs.my_dfs_init_openOk _)
  have hcontent : (booted fs devices).dfs.fs.content .MS_MSID = fs.content .MS_MSID :=
    Dfs.my_dfs_init_MS_MSID _
  have hgot := (get_MSID_works hworks (booted fs devices).MSID).1
  rw [hcontent, hz] at hgot
  have hdigits : (store_MSID (booted fs devices).get_MSID).digits = MSID_bytes (z 0) (z 1) (z 2) :=
    (store_MSID_digits _).trans hgot
  refine ⟨w, hw, fun r hr => ?_, fun r _ i hi => ?_⟩
  · rw [hlist]
    exact cells_eq_of_digits hdigits hr
  · rw [hlist]
    exact store_MSID_frame _ hi

/-! ### The function -/

theorem show_settings_lists (n : ℕ) (w : World) : ∃ w', show_settings.exec n w = some w' ∧
    w'.zf_list6 = w.zf_list6 ∧ w'.dfs = w.dfs := by
  simp only [show_settings, MS_thread_GetTime, exec_block_cons, exec_block_nil, exec_act,
    Option.bind_some]
  exact ⟨_, rfl, rfl, rfl⟩

/-- The next serial is in the list of the mode, and all digits are in the file. -/
theorem MS_thread_return_exec (n : ℕ) {w : World} (hc : w.choose < 3)
    (hz : ∀ r < 3, IsDigits (w.zf_list6 r) (serial_len r)) :
    ∃ v w', Splitting w (serial_len w.choose) (successor w.choose w.zf_list6)
        (serial_len w.choose) v ∧
      MS_thread_return.exec n w = some w' ∧ w'.zf_list6 = v.zf_list6 ∧
      w'.dfs = v.dfs.set_MSID (v.zf_list6 0) (v.zf_list6 1) (v.zf_list6 2) := by
  have hlen := serial_len_bounds w.choose
  obtain ⟨v, hv, hsplit⟩ := increment_exec n hlen.1 hlen.2 (hz _ hc)
  have hite : (ite (fun w : World => w.choose = 1) (increment 8) (increment 6)).exec n w =
      some v := by
    rw [exec_ite, ← hv, serial_len]
    by_cases h1 : w.choose = 1
    · simp [h1]
    · simp [h1]
  obtain ⟨w', hw', hlists, hdfs⟩ := show_settings_lists n v.set_MSID
  refine ⟨v, w', hsplit, ?_, hlists, hdfs⟩
  rw [MS_thread_return, exec_block_cons, exec_check, if_pos (by simpa using hc), Option.bind_some,
    exec_block_cons, hite, Option.bind_some, exec_block_cons, exec_act, Option.bind_some,
    exec_block_cons, hw']
  rfl

/-- The digits of the next number. -/
theorem Splitting.digits {v w : World} {len m : ℕ} (h9 : len ≤ 9) (h : Splitting v len m len w) :
    cells (w.zf_list6 v.choose) len =
      (Numeral.digits 10 len (m % 10 ^ len)).map fun d => UInt8.ofNat d + 100 := by
  rw [h.storing.cells_eq h9, Numeral.digits_mod]

/-- The cells of a numeral are digits. -/
theorem isDigits_of_numeral {zf_list : Vector UInt8 10} {len m : ℕ} (h9 : len ≤ 9)
    (h : cells zf_list len = (Numeral.digits 10 len m).map fun d => UInt8.ofNat d + 100) :
    IsDigits zf_list len := by
  rw [isDigits_iff h9, h]
  intro b hb
  obtain ⟨d, hd, rfl⟩ := List.mem_map.mp hb
  have hlt : d < 10 := Numeral.digits_lt (by decide) _ _ d hd
  interval_cases d <;> decide

/-- **The next serial survives the restart**: `MS_thread_return` puts the numeral of the next number
into the list of the mode and leaves all else in the lists alone, and over the files that it leaves
the tester starts with the same digits.  Over any files at all it starts with digits. -/
theorem next_serial_restored :
    (∀ (n : ℕ) (w : World), w.choose < 3 → (∀ r < 3, IsDigits (w.zf_list6 r) (serial_len r)) →
      w.dfs.fs.Works → w.dfs.fs.file .MS_MSID ≠ none →
      ∃ w', MS_thread_return.exec n w = some w' ∧
        cells (w'.zf_list6 w.choose) (serial_len w.choose) =
          (Numeral.digits 10 (serial_len w.choose)
            (successor w.choose w.zf_list6 % 10 ^ serial_len w.choose)).map
            (fun d => UInt8.ofNat d + 100) ∧
        (∀ i, (i = 0 ∨ serial_len w.choose < i) →
          (w'.zf_list6 w.choose)[i]? = (w.zf_list6 w.choose)[i]?) ∧
        (∀ r, r ≠ w.choose → w'.zf_list6 r = w.zf_list6 r) ∧
        ∀ (devices : ℕ → Device) (m : ℕ), ∃ v,
          MS_thread_init.exec m (booted w'.dfs.fs devices) = some v ∧
          (∀ r < 3, cells (v.zf_list6 r) (serial_len r) = cells (w'.zf_list6 r) (serial_len r)) ∧
          (SameRest zf_list6_start w.zf_list6 → ∀ r < 3, v.zf_list6 r = w'.zf_list6 r)) ∧
    ∀ (fs : Fs) (devices : ℕ → Device) (n : ℕ), ∃ v,
      MS_thread_init.exec n (booted fs devices) = some v ∧
        ∀ r < 3, IsDigits (v.zf_list6 r) (serial_len r) := by
  refine ⟨fun n w hc hz hworks hfile => ?_, init_isDigits⟩
  obtain ⟨u, w', hsplit, hexec, hlists, hdfs⟩ := MS_thread_return_exec n hc hz
  have hdigits := hsplit.digits (serial_len_le _)
  refine ⟨w', hexec, by rw [hlists, hdigits], by rw [hlists]; exact hsplit.frame,
    by rw [hlists]; exact hsplit.storing.others, fun devices m => ?_⟩
  -- the file holds the digits of the three lists
  have hlt : ∀ b ∈ MSID_bytes (u.zf_list6 0) (u.zf_list6 1) (u.zf_list6 2), b < 10 := by
    apply MSID_bytes_lt _
    intro r hr
    rw [← isDigits_iff (serial_len_le r)]
    by_cases hrow : r = w.choose
    · rw [hrow]
      exact isDigits_of_numeral (serial_len_le _) hdigits
    · rw [hsplit.storing.others r hrow]
      exact hz r hr
  have hfile' : w'.dfs.fs.Works ∧ read_MSID (w'.dfs.fs.content .MS_MSID) =
      MSID_bytes (u.zf_list6 0) (u.zf_list6 1) (u.zf_list6 2) := by
    rw [hdfs, hsplit.dfs]
    exact ⟨hworks.of_openOk (Dfs.set_MSID_openOk _ _ _ _), (set_MSID_works hworks hfile hlt).1⟩
  obtain ⟨v, hv, hcells, hrest⟩ := init_restores hfile'.1 devices m hfile'.2
  rw [← hlists] at hcells
  refine ⟨v, hv, hcells, fun hstart r hr => list_eq_of_digits hr (hcells r hr) ?_⟩
  -- the rest of the lists is as the image has it
  intro r hr i hi
  rw [hrest r hr i hi, hstart r hr i hi, hlists]
  by_cases hrow : r = w.choose
  · rw [hrow] at hi ⊢
    exact (hsplit.frame i hi).symm
  · rw [hsplit.storing.others r hrow]

/-- Behind a pass with the serial `99999999`. -/
def highest_serial : World :=
  { booted (Fs.empty.put .MS_MSID default_MSID) (bench 0) with
    MS := 5
    choose := 1
    zf_list6 := fun row => if row = 1 then #v[8, 109, 109, 109, 109, 109, 109, 109, 109, 100]
      else zf_list6_start row }

/-- A full carry: behind the serial `99999999` comes `00000000`. -/
theorem next_serial_restored_carry : ∃ w', MS_thread_return.exec 0 highest_serial = some w' ∧
    cells (w'.zf_list6 1) 8 = List.replicate 8 100 ∧
    ∃ v, MS_thread_init.exec 0 (booted w'.dfs.fs (bench 0)) = some v ∧
      cells (v.zf_list6 1) 8 = List.replicate 8 100 := by
  have hdigits : ∀ r < 3, IsDigits (highest_serial.zf_list6 r) (serial_len r) := by
    intro r hr
    have hall : (cells (highest_serial.zf_list6 r) (serial_len r)).all fun b => b - 100 < 10 := by
      interval_cases r <;> decide
    rw [isDigits_iff (serial_len_le r)]
    simpa using hall
  obtain ⟨w', hw', hcells, -, -, hback⟩ := next_serial_restored.1 0 highest_serial (by decide)
    hdigits (fun _ => rfl) (by decide)
  obtain ⟨v, hv, hv', -⟩ := hback (bench 0) 0
  have hnext : cells (w'.zf_list6 1) 8 = List.replicate 8 100 := hcells.trans (by decide)
  exact ⟨w', hw', hnext, v, hv, (hv' 1 (by decide)).trans hnext⟩

end MeterTester
