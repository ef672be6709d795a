import MeterTester.SerialFile

/-! # A radio record written and read back: `set_ax_record`, `show_ax_record`

The writer fills the transfer buffer with a running index, the reader takes its fields from fixed
columns: the version from column `0`, the serial from `2`, the reading from `11`, the flags from
every second column from `18` on and the signal strength from `56`.  The column lemmas say that
both mean the same bytes; `show_slot_record` follows for every slot that holds a record, whoever
wrote it and when, and `ax_record_codec` for the slot just written.

A field that is wider than its columns is cut to the lowest digits. -/

namespace MeterTester

open Interleave Interleave.Prog World Dfs SlotFile

/-! ### Columns -/

/-- A field that stands behind `k` bytes is found from column `k` on. -/
theorem getD_column {pre field post : List UInt8} {k i : ℕ} (hk : pre.length = k)
    (hi : i < field.length) : (pre ++ field ++ post).getD (k + i) 0 = field.getD i 0 := by
  have hpre : (pre ++ field ++ post)[k + i]? = field[i]? := by
    rw [List.append_assoc, List.getElem?_append_right (by omega), List.getElem?_append_left (by omega),
      show k + i - pre.length = i by omega]
  rw [List.getD_eq_getElem?_getD, List.getD_eq_getElem?_getD, hpre]

/-- The flags stand in every second column. -/
theorem getD_flags (l : List UInt8) : ∀ {i : ℕ}, i < l.length →
    (l.flatMap fun f => [f + chr '0', chr ' ']).getD (i * 2) 0 = l.getD i 0 + chr '0' := by
  induction l with
  | nil =>
      intro i hi
      cases hi
  | cons f l ih =>
      intro i hi
      cases i with
      | zero => rfl
      | succ i =>
          have h := ih (i := i) (Nat.lt_of_succ_lt_succ hi)
          rw [show (i + 1) * 2 = i * 2 + 1 + 1 by omega]
          simpa using h

theorem flags_length (zf_list : Vector UInt8 10) :
    (zf_list.toList.flatMap fun f => [f + chr '0', chr ' ']).length = 20 := by
  rw [List.length_flatMap]
  simp

section columns
variable (version : UInt8) (zf_list : Vector UInt8 10) (msid msv : ℕ) (my_time : Vector UInt8 7)
  (rssi : ℕ)

theorem ax_record_version :
    (ax_record version zf_list msid msv my_time rssi).getD 0 0 = version + chr '0' := by
  unfold ax_record
  simp

theorem ax_record_msid {i : ℕ} (hi : i < 8) :
    (ax_record version zf_list msid msv my_time rssi).getD (2 + i) 0 =
      (dec_digits 8 msid).getD i 0 := by
  obtain ⟨post, h⟩ : ∃ post, ax_record version zf_list msid msv my_time rssi =
      [version + chr '0', chr ' '] ++ dec_digits 8 msid ++ post :=
    ⟨_, by unfold ax_record; simp only [List.append_assoc]; rfl⟩
  rw [h]
  exact getD_column rfl (by rwa [dec_digits_length])

theorem ax_record_msv {i : ℕ} (hi : i < 6) :
    (ax_record version zf_list msid msv my_time rssi).getD (11 + i) 0 =
      (dec_digits 6 msv).getD i 0 := by
  obtain ⟨post, h⟩ : ∃ post, ax_record version zf_list msid msv my_time rssi =
      ([version + chr '0', chr ' '] ++ dec_digits 8 msid ++ [chr ' ']) ++ dec_digits 6 msv ++ post :=
    ⟨_, by unfold ax_record; simp only [List.append_assoc]; rfl⟩
  rw [h]
  exact getD_column (by simp [dec_digits_length]) (by rwa [dec_digits_length])

theorem ax_record_flag (i : Fin 10) :
    (ax_record version zf_list msid msv my_time rssi).getD (18 + i.1 * 2) 0 =
      getElem zf_list i (cell_lt i) + chr '0' := by
  obtain ⟨post, h⟩ : ∃ post, ax_record version zf_list msid msv my_time rssi =
      ([version + chr '0', chr ' '] ++ dec_digits 8 msid ++ [chr ' '] ++ dec_digits 6 msv ++
        [chr ' ']) ++ (zf_list.toList.flatMap fun f => [f + chr '0', chr ' ']) ++ post :=
    ⟨_, by unfold ax_record; simp only [List.append_assoc]; rfl⟩
  rw [h, getD_column (by simp [dec_digits_length]) (by rw [flags_length]; omega),
    getD_flags _ (by simp), List.getD_eq_getElem _ _ (by simp)]
  simp

theorem ax_record_rssi {i : ℕ} (hi : i < 3) :
    (ax_record version zf_list msid msv my_time rssi).getD (56 + i) 0 =
      (dec_digits 3 rssi).getD i 0 := by
  have hdigits : dec_digits 3 rssi = [UInt8.ofNat (rssi / 100 % 10) + chr '0',
      UInt8.ofNat (rssi / 10 % 10) + chr '0', UInt8.ofNat (rssi % 10) + chr '0'] := by
    simp only [dec_digits, Nat.div_div_eq_div_mul, List.nil_append, List.cons_append]
  obtain ⟨pre, hpre, h⟩ : ∃ pre : List UInt8, pre.length = 56 ∧
      ax_record version zf_list msid msv my_time rssi = pre ++ dec_digits 3 rssi ++ [0x0d] := by
    refine ⟨[version + chr '0', chr ' '] ++ dec_digits 8 msid ++ [chr ' '] ++ dec_digits 6 msv ++
      [chr ' '] ++ zf_list.toList.flatMap (fun f => [f + chr '0', chr ' ']) ++
      two_digits my_time[6] ++ [chr '-'] ++ two_digits my_time[5] ++ [chr '-'] ++
      two_digits my_time[4] ++ [chr ' '] ++ two_digits my_time[2] ++ [chr ':'] ++
      two_digits my_time[1] ++ [chr ':'] ++ two_digits my_time[0] ++ [chr ' '], ?_, ?_⟩
    · simp only [two_digits, List.length_append, List.length_cons, List.length_nil,
        dec_digits_length, flags_length]
    · rw [hdigits]
      unfold ax_record
      simp only [List.append_assoc, List.cons_append, List.nil_append]
  rw [h]
  exact getD_column hpre (by rwa [dec_digits_length])

end columns

/-! ### Numbers -/

theorem dec_digit_toNat {d : ℕ} (h : d < 10) : (UInt8.ofNat d + chr '0').toNat = d + 48 := by
  interval_cases d <;> rfl

/-- The digits of a number as characters. -/
theorem dec_digits_getD {len i : ℕ} (hi : i < len) (n : ℕ) :
    ((dec_digits len n).getD i 0).toNat = (Numeral.digits 10 len n).getD i 0 + 48 := by
  have hlen : i < (Numeral.digits 10 len n).length := by rwa [Numeral.digits_length]
  have hd : (Numeral.digits 10 len n)[i] < 10 :=
    Numeral.digits_lt (by decide) len n _ (List.getElem_mem hlen)
  rw [dec_digits_eq, List.getD_eq_getElem _ _ (by rwa [List.length_map]), List.getElem_map,
    dec_digit_toNat hd, List.getD_eq_getElem _ _ hlen]

/-- The columns of a number, read by the reader's loop. -/
theorem buffer_number_digits (d : Dfs) {k len : ℕ} (n : ℕ) (h1 : 1 ≤ len) (h8 : len ≤ 8)
    (h : ∀ i < len, d.buffer.toList.getD (k + i) 0 = (dec_digits len n).getD i 0) :
    buffer_number d k len = n % 10 ^ len := by
  have hpow : 10 ^ len ≤ 10 ^ 8 := Nat.pow_le_pow_right (by decide) h8
  have hmod : n % 10 ^ len < 10 ^ len := Nat.mod_lt _ (Nat.pow_pos (by decide))
  have hlt : ∀ i < len, (Numeral.digits 10 len n).getD i 0 < 10 := by
    intro i hi
    rw [List.getD_eq_getElem _ _ (by rwa [Numeral.digits_length])]
    exact Numeral.digits_lt (by decide) len n _ (List.getElem_mem _)
  have hchar : ∀ m, ∀ i < len,
      (m + ((d.buffer.toList.getD (k + i) 0).toNat + 0x100000000 - 48)) % 0x100000000 =
        (m + (Numeral.digits 10 len n).getD i 0) % 0x100000000 := by
    intro m i hi
    rw [h i hi, dec_digits_getD hi]
    omega
  have hvalue : Numeral.value 10 ((List.range len).map fun i => (Numeral.digits 10 len n).getD i 0) =
      n % 10 ^ len := by
    rw [← Numeral.value_digits]
    congr 1
    apply List.ext_getElem
    · simp
    · intro i hi hi'
      rw [List.getElem_map, List.getElem_range, List.getD_eq_getElem]
  refine Numeral.foldl_value (b := 10) (N := 0x100000000) hlt (by omega) (fun m i hi => ?_) (by omega)
    fun m hm => ?_
  · dsimp only
    rw [if_pos (by omega), hchar m i (by omega)]
  · dsimp only
    rw [if_neg (lt_irrefl _), hchar m _ (by omega), hm, hvalue, Nat.mod_eq_of_lt (by omega)]

/-! ### Reading a slot -/

/-- What is shown of a record. -/
def shown_record (version : UInt8) (zf_list : Vector UInt8 10) (msid msv rssi addr : ℕ) : Shown where
  msid := msid % 10 ^ 8
  msv := msv % 10 ^ 6
  v := version
  data := zf_list
  rssi := (rssi % 1000 : ℕ)
  addr := addr

/-- A record in the transfer buffer is shown with its fields. -/
theorem show_buffer_record {w : World} {version : UInt8} {zf_list : Vector UInt8 10}
    {msid msv : ℕ} {my_time : Vector UInt8 7} {rssi : ℕ} (addr : ℕ)
    (h : ∀ i < 60, w.dfs.buffer.toList.getD i 0 =
      (ax_record version zf_list msid msv my_time rssi).getD i 0) :
    (show_buffer w addr).screen = some (shown_record version zf_list msid msv rssi addr) := by
  have hmsid : buffer_number w.dfs 2 8 = msid % 10 ^ 8 :=
    buffer_number_digits _ msid (by decide) le_rfl fun i hi => by
      rw [h _ (by omega), ax_record_msid _ _ _ _ _ _ hi]
  have hmsv : buffer_number w.dfs 11 6 = msv % 10 ^ 6 :=
    buffer_number_digits _ msv (by decide) (by decide) fun i hi => by
      rw [h _ (by omega), ax_record_msv _ _ _ _ _ _ hi]
  have hrssi : ∀ i, i < 3 → (w.dfs.buffer.toList.getD (56 + i) 0).toNat =
      rssi / 10 ^ (2 - i) % 10 + 48 := by
    intro i hi
    rw [h _ (by omega), ax_record_rssi _ _ _ _ _ _ hi, dec_digits_getD hi,
      List.getD_eq_getElem?_getD, Numeral.digits_getElem? hi]
    rfl
  have hdata : Vector.ofFn (fun i : Fin 10 => w.dfs.buffer.toList.getD (18 + i.1 * 2) 0 - chr '0') =
      zf_list := by
    apply Vector.ext
    intro i hi
    rw [Vector.getElem_ofFn, h _ (by omega),
      ax_record_flag version zf_list msid msv my_time rssi ⟨i, hi⟩]
    simp
  have hnumber : (((((w.dfs.buffer.toList.getD 56 0).toNat : ℤ) - 48) * 100 +
      (((w.dfs.buffer.toList.getD 57 0).toNat : ℤ) - 48) * 10 +
      (((w.dfs.buffer.toList.getD 58 0).toNat : ℤ) - 48)) % 0x10000) = (rssi % 1000 : ℕ) := by
    have h0 : (w.dfs.buffer.toList.getD 56 0).toNat = rssi / 100 % 10 + 48 := hrssi 0 (by decide)
    have h1 : (w.dfs.buffer.toList.getD 57 0).toNat = rssi / 10 % 10 + 48 := hrssi 1 (by decide)
    have h2 : (w.dfs.buffer.toList.getD 58 0).toNat = rssi / 1 % 10 + 48 := hrssi 2 (by decide)
    have hsplit : rssi / 100 % 10 * 100 + rssi / 10 % 10 * 10 + rssi / 1 % 10 = rssi % 1000 := by
      rw [Nat.div_one]
      omega
    have hlt : rssi % 1000 < 1000 := Nat.mod_lt _ (by decide)
    rw [h0, h1, h2, ← hsplit]
    rw [← hsplit] at hlt
    push_cast
    omega
  have hversion : w.dfs.buffer.toList.getD 0 0 - chr '0' = version := by
    rw [h 0 (by decide), ax_record_version, UInt8.add_sub_cancel]
  simp only [show_buffer, hmsid, hmsv, hversion, hdata, hnumber, shown_record]

/-- Slot `s` of the log holds a record with these fields. -/
def HoldsRecord (d : Dfs) (s : ℕ) (version : UInt8) (zf_list : Vector UInt8 10) (msid msv : ℕ)
    (my_time : Vector UInt8 7) (rssi : ℕ) : Prop :=
  SlotFile.chunk AX_WIDTH s (d.fs.content .AX_record) = ax_record version zf_list msid msv my_time rssi

/-- A slot that is there is read into the buffer, and the file stays as it is. -/
theorem get_ax_Record_slot {d : Dfs} (hw : d.fs.Works) {s : ℕ} {record : List UInt8}
    (hlen : record.length = AX_WIDTH) (h : SlotFile.chunk AX_WIDTH s (d.fs.content .AX_record) = record) :
    (d.get_ax_Record s).1 = true ∧ (d.get_ax_Record s).2.fs.content = d.fs.content ∧
      (∀ i < 60, (d.get_ax_Record s).2.buffer.toList.getD i 0 = record.getD i 0) := by
  have hread : ((d.fs.content .AX_record).drop (s * 60)).take 60 = record := by
    rw [Nat.mul_comm]
    exact h
  have hend : s * 60 ≤ (d.fs.content .AX_record).length := by
    have := congrArg List.length hread
    rw [hlen, AX_WIDTH, List.length_take, List.length_drop] at this
    omega
  rw [get_ax_Record, opening_works hw]
  dsimp only
  rw [Fs.lseek_of_le (by simpa using hend)]
  simp only [Fs.read, Fs.content_openFile, hread, load_fs, hlen, AX_WIDTH, le_refl, decide_true,
    true_and]
  refine ⟨funext fun q => Fs.content_openFile _ _ _ _, fun i hi => ?_⟩
  have h80 : i < (fill d.buffer record).toList.length := by simp; omega
  have hrec : i < record.length := by rw [hlen, AX_WIDTH]; exact hi
  rw [load, List.getD_eq_getElem _ _ h80, Vector.getElem_toList, fill_getElem _ _ _ (by omega),
    dif_pos hrec, List.getD_eq_getElem _ _ hrec]

/-- Slot `s` is read and shown. -/
def World.show_slot (w : World) (s : ℕ) : World :=
  show_buffer { w with dfs := (w.dfs.get_ax_Record s).2 } s

/-- `show_ax_record` of a slot that the reading does not move. -/
theorem show_ax_record_exec {addr : World → ℕ} {w : World}
    (haddr : ∀ dfs, addr { w with dfs := dfs } = addr w) (n : ℕ) :
    (show_ax_record addr).exec n w = some (w.show_slot (addr w)) := by
  simp only [show_ax_record, exec_block_cons, exec_block_nil, exec_act, Option.bind_some, haddr,
    World.show_slot]

/-- **Reading a slot**: a record is shown with its version and flags, and with the lowest digits of
its numbers. -/
theorem show_slot_record {w : World} (hw : w.dfs.fs.Works) {s : ℕ} {version : UInt8}
    {zf_list : Vector UInt8 10} {msid msv : ℕ} {my_time : Vector UInt8 7} {rssi : ℕ}
    (h : HoldsRecord w.dfs s version zf_list msid msv my_time rssi) :
    (w.show_slot s).screen = some (shown_record version zf_list msid msv rssi s) :=
  show_buffer_record s (get_ax_Record_slot hw (ax_record_length ..) h).2.2

/-! ### Writing a slot -/

/-- A seek lengthens the file up to the position, and keeps its bytes. -/
theorem lseek_content (fs : Fs) (p : Path) (pos : ℕ) :
    ((fs.lseek p pos).content p).length = max (fs.content p).length pos ∧
      ∀ i < (fs.content p).length, ((fs.lseek p pos).content p)[i]? = (fs.content p)[i]? := by
  unfold Fs.lseek
  dsimp only
  split_ifs with hpos
  · rw [Fs.content_put, if_pos rfl]
    constructor
    · simp only [List.length_append, List.length_map, List.length_range']
      omega
    · intro i hi
      exact List.getElem?_append_left hi
  · exact ⟨by omega, fun _ _ => rfl⟩

/-- A record is put into its slot; the bytes of the file outside of the slot stay. -/
theorem put_record_slot (d : Dfs) (p : Path) {w s : ℕ} {record : List UInt8} (hlen : record.length = w) :
    SlotFile.chunk w s ((d.put_record p (s * w) record).fs.content p) = record ∧
      ((d.put_record p (s * w) record).fs.content p).length =
        max (d.fs.content p).length (s * w + w) ∧
      ∀ i < (d.fs.content p).length, i < s * w ∨ s * w + w ≤ i →
        ((d.put_record p (s * w) record).fs.content p)[i]? = (d.fs.content p)[i]? := by
  obtain ⟨hseek, hsame⟩ := lseek_content d.fs p (s * w)
  have hpos : s * w ≤ ((d.fs.lseek p (s * w)).content p).length := by omega
  rw [put_record, Fs.content_write, if_pos rfl]
  refine ⟨?_, ?_, ?_⟩
  · rw [Nat.mul_comm s w] at hpos ⊢
    exact chunk_writeAt_self hlen hpos
  · rw [writeAt_length hpos]
    omega
  · intro i hi hout
    rw [writeAt_getElem?_of_lt hpos (by omega)]
    exact hsame i hi

/-- **The radio records' format.**  A record has 60 bytes, goes into slot `ax5043_len % 50000` and
changes no other byte of the file; and read back from there it is shown with its version and flags,
and with the lowest 8, 6 and 3 digits of its numbers. -/
theorem ax_record_codec {d : Dfs} (hw : d.fs.Works) (version : UInt8) (zf_list : Vector UInt8 10)
    (msid msv : ℕ) (my_time : Vector UInt8 7) (rssi : ℕ) :
    (ax_record version zf_list msid msv my_time rssi).length = 60 ∧
      (∀ i < (d.fs.content .AX_record).length,
        i < d.ax5043_len % AX5043_MAX * 60 ∨ d.ax5043_len % AX5043_MAX * 60 + 60 ≤ i →
          ((d.set_ax_record version zf_list msid msv my_time rssi).fs.content .AX_record)[i]? =
            (d.fs.content .AX_record)[i]?) ∧
      ((d.set_ax_record version zf_list msid msv my_time rssi).fs.content .AX_record).length =
        max (d.fs.content .AX_record).length (d.ax5043_len % AX5043_MAX * 60 + 60) ∧
      ∀ (w : World) (n : ℕ), w.dfs = d.set_ax_record version zf_list msid msv my_time rssi →
        (w.dfs.get_ax_Record (d.ax5043_len % AX5043_MAX)).1 = true ∧
          ∃ w', (show_ax_record fun _ => d.ax5043_len % AX5043_MAX).exec n w = some w' ∧
            w'.screen = some
              { msid := msid % 10 ^ 8
                msv := msv % 10 ^ 6
                v := version
                data := zf_list
                rssi := (rssi % 1000 : ℕ)
                addr := d.ax5043_len % AX5043_MAX } := by
  have hlen := ax_record_length version zf_list msid msv my_time rssi
  have hset : d.set_ax_record version zf_list msid msv my_time rssi =
      { d with fs := (d.fs.openFile .AX_record true).2 }.put_record .AX_record
        (d.ax5043_len % AX5043_MAX * AX_WIDTH) (ax_record version zf_list msid msv my_time rssi) :=
    opening_works hw ..
  obtain ⟨hslot, hlong, hout⟩ := put_record_slot
    { d with fs := (d.fs.openFile .AX_record true).2 } .AX_record (s := d.ax5043_len % AX5043_MAX) hlen
  simp only [Fs.content_openFile] at hlong hout
  rw [hset]
  refine ⟨hlen, hout, hlong, fun w n hd => ?_⟩
  have hworks : w.dfs.fs.Works := by
    apply hw.of_openOk
    simp [hd]
  have hheld : HoldsRecord w.dfs (d.ax5043_len % AX5043_MAX) version zf_list msid msv my_time rssi := by
    rw [HoldsRecord, hd]
    exact hslot
  exact ⟨(get_ax_Record_slot hworks hlen hheld).1, _, show_ax_record_exec (fun _ => rfl) n,
    show_slot_record hworks hheld⟩

/-- A nine-digit serial in the first slot of an empty log. -/
theorem ax_record_codec_wide : ∃ w', (show_ax_record fun _ => 0).exec 0
    { World.start Fs.empty (fun _ => ⟨16, fun _ => true, Vector.replicate 7 0, Vector.replicate 7 0, 0, 0⟩)
        [] with
      dfs := (Dfs.start Fs.empty).set_ax_record 2 (Vector.replicate 10 1) 123456789 42
        (Vector.replicate 7 9) 1070 } = some w' ∧
    w'.screen = some ⟨23456789, 42, 2, Vector.replicate 10 1, 70, 0⟩ :=
  ((ax_record_codec (d := Dfs.start Fs.empty) (fun _ => rfl) 2 (Vector.replicate 10 1) 123456789 42
    (Vector.replicate 7 9) 1070).2.2.2 _ 0 rfl).2

end MeterTester
