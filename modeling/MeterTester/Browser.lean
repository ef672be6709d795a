import MeterTester.Carousel
import MeterTester.Stamp

/-! # The browser of the radio log

`AxLog d N`: the radio log holds `N` records, one a slot, and its counter stands behind the newest of
them; so does every log that has been written by appends to an empty one (`AxLog.appendAll`).

Three numbers are kept in step by hand.  The number of records is computed from the size of the file,
the counter is that of the next append, and `show_ax_addr` is the cursor of the browser.  When the log
is entered and behind every packet the newest record is shown, in the slot before the counter, but the
cursor is set to the counter itself: the first arrow starts from one place further.  The counter runs
to `50000` and the slots to `49999`, so that a packet at the counter `50000` goes into slot `0` and is
shown under `49999`, and behind it the counter `0` means an empty log to the browser.

`browser_iff`: a turn follows the log exactly if an arrow finds the cursor on the slot that is shown (or
one record only) and a counter other than `0`, and a packet does not find the counter `50000`.  The
second arrow and those behind it do, until the log is entered again or a packet is shown. -/

namespace MeterTester

open Interleave Interleave.Prog World Dfs SlotFile Moments

/-! ### The radio log -/

/-- Slot `s` of the log holds a record. -/
def IsRecord (d : Dfs) (s : ℕ) : Prop :=
  ∃ version zf_list msid msv my_time rssi, HoldsRecord d s version zf_list msid msv my_time rssi

/-- The radio log holds `N` records; its counter is `N`, or anywhere once the log is full. -/
structure AxLog (d : Dfs) (N : ℕ) : Prop where
  works : d.fs.Works
  le : N ≤ AX5043_MAX
  size : (d.fs.content .AX_record).length = N * 60
  records : ∀ s < N, IsRecord d s
  counter : d.ax5043_len = N ∨ (N = AX5043_MAX ∧ d.ax5043_len ≤ AX5043_MAX)

section log
variable {d d' : Dfs} {N : ℕ}

theorem AxLog.counter_le (h : AxLog d N) : d.ax5043_len ≤ N := by
  rcases h.counter with hc | ⟨hN, hc⟩ <;> omega

theorem AxLog.of_eq (h : AxLog d N) (hc : d'.fs.content .AX_record = d.fs.content .AX_record)
    (hl : d'.ax5043_len = d.ax5043_len) (ho : d'.fs.openOk = d.fs.openOk) : AxLog d' N where
  works := h.works.of_openOk ho
  le := h.le
  size := by rw [hc]; exact h.size
  records := fun s hs => by
    unfold IsRecord HoldsRecord
    rw [hc]
    exact h.records s hs
  counter := by rw [hl]; exact h.counter

/-- **The divisor** of the arrows is the number of records. -/
theorem AxLog.stat_sample (h : AxLog d N) (hN : 1 ≤ N) : d.stat_sample = some N := by
  have hle : N ≤ 50000 := h.le
  have hsize := h.size
  unfold Dfs.stat_sample
  unfold Fs.content at hsize
  cases hf : d.fs.file .AX_record with
  | none =>
      rw [hf] at hsize
      have hzero : 0 = N * 60 := hsize
      omega
  | some bs =>
      rw [hf] at hsize
      have hlen : bs.length = N * 60 := hsize
      rw [Option.map_some, hlen, Nat.mul_div_cancel N (by decide), Nat.mod_eq_of_lt (by omega)]

theorem AxLog.stat_number {w : World} (h : AxLog w.dfs N) (hN : 1 ≤ N) : stat_number w = N := by
  rw [MeterTester.stat_number, h.stat_sample hN]
  rfl

/-- The records behind an append to the radio log. -/
def grown (N counter : ℕ) : ℕ := max N (counter % AX5043_MAX + 1)

/-- A radio record is stored in the slot of the counter, and the counter goes on. -/
theorem AxLog.ax (h : AxLog d N) (version : UInt8) (zf_list : Vector UInt8 10) (msid msv : ℕ)
    (my_time : Vector UInt8 7) (rssi : ℕ) :
    let d' := (Append.ax version zf_list msid msv my_time rssi).exec d
    AxLog d' (grown N d.ax5043_len) ∧
      d'.ax5043_len = (d.ax5043_len + 1) % (AX5043_MAX + 1) ∧
      HoldsRecord d' (d.ax5043_len % AX5043_MAX) version zf_list msid msv my_time rssi := by
  intro d'
  have hle : d.ax5043_len ≤ AX5043_MAX := h.counter_le.trans h.le
  have hmax : AX5043_MAX = 50000 := rfl
  generalize hd₁ : d.set_ax_record version zf_list msid msv my_time rssi = d₁
  rw [set_ax_record_works h.works] at hd₁
  have hw₁ : d₁.fs.Works := h.works.of_openOk (by rw [← hd₁]; simp)
  have hlen₁ : d₁.ax5043_len = d.ax5043_len := by rw [← hd₁]; rfl
  have hexec : d' = d₁.set_Record_txt d₁.record_len (d.ax5043_len + 1) d₁.version := by
    simp only [d', Append.exec, get_recordled_data, get_ax5045len_data, get_version,
      set_ax_record_works h.works, hd₁, hlen₁]
    rw [Nat.mod_eq_of_lt (show d.ax5043_len + 1 < 0x10000 by omega)]
  have hslot : d.ax5043_len % AX5043_MAX ≤ N := (Nat.mod_le _ _).trans h.counter_le
  have hpos : 60 * (d.ax5043_len % AX5043_MAX) ≤ (d.fs.content .AX_record).length := by
    rw [h.size]
    omega
  have hrec := ax_record_length version zf_list msid msv my_time rssi
  have hcontent : d'.fs.content .AX_record =
      writeAt (d.fs.content .AX_record) (60 * (d.ax5043_len % AX5043_MAX))
        (ax_record version zf_list msid msv my_time rssi) := by
    rw [hexec, set_Record_txt_content hw₁, if_neg (by decide), ← hd₁,
      put_record_content (by rw [Nat.mul_comm]; simpa using hpos), if_pos rfl, Nat.mul_comm]
    simp
  have hcount : d'.ax5043_len = (d.ax5043_len + 1) % (AX5043_MAX + 1) := by
    rw [hexec, set_Record_txt_ax5043_len hw₁]
  have hheld : HoldsRecord d' (d.ax5043_len % AX5043_MAX) version zf_list msid msv my_time rssi := by
    rw [HoldsRecord, hcontent]
    exact chunk_writeAt_self hrec hpos
  refine ⟨⟨?_, ?_, ?_, fun s hs => ?_, ?_⟩, hcount, hheld⟩
  · rw [hexec]
    exact set_Record_txt_fs_works hw₁ _ _ _
  · have hmod := Nat.mod_lt d.ax5043_len (show 0 < AX5043_MAX by decide)
    have := h.le
    unfold grown
    omega
  · rw [hcontent, writeAt_length hpos, hrec, h.size, AX_WIDTH, grown]
    omega
  · by_cases hst : s = d.ax5043_len % AX5043_MAX
    · rw [hst]
      exact ⟨_, _, _, _, _, _, hheld⟩
    · have hsN : s < N := by
        unfold grown at hs
        omega
      have hkeep : SlotFile.chunk AX_WIDTH s (d'.fs.content .AX_record) =
          SlotFile.chunk AX_WIDTH s (d.fs.content .AX_record) := by
        rw [hcontent]
        exact chunk_writeAt_ne hrec hpos hst
      unfold IsRecord HoldsRecord
      rw [hkeep]
      exact h.records s hsN
  · rw [hcount, grown]
    rcases h.counter with hc | ⟨hN, hc⟩
    · by_cases hfull : N = AX5043_MAX
      · right
        refine ⟨?_, Nat.le_of_lt_succ (Nat.mod_lt _ (by decide))⟩
        rw [hc, hfull, Nat.mod_self]
        decide
      · left
        have := h.le
        rw [hc, Nat.mod_eq_of_lt (by omega), Nat.mod_eq_of_lt (by omega)]
        omega
    · right
      have hmod := Nat.mod_lt d.ax5043_len (show 0 < AX5043_MAX by decide)
      exact ⟨by omega, Nat.le_of_lt_succ (Nat.mod_lt _ (by decide))⟩

/-- A log that is not full grows by one record. -/
theorem AxLog.grown_eq (h : AxLog d N) : grown N d.ax5043_len = min (N + 1) AX5043_MAX := by
  have hle := h.le
  unfold grown
  rcases h.counter with hc | ⟨hN, hc⟩
  · rw [hc]
    rcases Nat.lt_or_eq_of_le hle with hlt | rfl
    · rw [Nat.mod_eq_of_lt hlt]
      omega
    · rw [Nat.mod_self]
      decide
  · have hmod := Nat.mod_lt d.ax5043_len (show 0 < AX5043_MAX by decide)
    omega

/-- A meter record leaves the radio log alone. -/
theorem AxLog.ms (h : AxLog d N) (choose : Fin 3) (zf_list : Vector UInt8 10) (ms_error : UInt8)
    (ms_time : Vector UInt8 7) : AxLog ((Append.ms choose zf_list ms_error ms_time).exec d) N := by
  have hle : d.ax5043_len ≤ AX5043_MAX := h.counter_le.trans h.le
  have hworks : (d.set_record choose zf_list ms_error ms_time).fs.Works :=
    h.works.of_openOk (set_record_openOk _ _ _ _ _)
  have hlen : (d.set_record choose zf_list ms_error ms_time).ax5043_len = d.ax5043_len := by
    rw [set_record_works h.works]
    rfl
  have hcontent : (d.set_record choose zf_list ms_error ms_time).fs.content .AX_record =
      d.fs.content .AX_record := by
    rw [set_record_works h.works, put_record_content_ne _ (by decide)]
    simp
  refine h.of_eq ?_ ?_ ?_
  · rw [Append.exec, set_Record_txt_content hworks, if_neg (by decide), hcontent]
  · rw [Append.exec, set_Record_txt_ax5043_len hworks, get_ax5045len_data, hlen]
    exact Nat.mod_eq_of_lt (Nat.lt_succ_of_le hle)
  · rw [Append.exec, set_Record_txt_openOk, set_record_openOk]

/-- **Whatever the main loop appends** to a radio log, it stays one, with a record more for each radio
record until it is full. -/
theorem AxLog.appendAll (run : List Append) {d : Dfs} {N : ℕ} (h : AxLog d N) :
    AxLog (appendAll run d) (min (N + appendsTo .AX_record run) AX5043_MAX) := by
  induction run generalizing d N with
  | nil =>
      have hle := h.le
      have hmin : min (N + appendsTo .AX_record []) AX5043_MAX = N := by
        simp only [appendsTo, List.countP_nil]
        omega
      rw [hmin]
      exact h
  | cons a run ih =>
      cases a with
      | ms choose zf_list ms_error ms_time =>
          have hcount : appendsTo .AX_record (.ms choose zf_list ms_error ms_time :: run) =
              appendsTo .AX_record run := by simp [appendsTo, Append.log]
          rw [hcount]
          exact ih (h.ms choose zf_list ms_error ms_time)
      | ax version zf_list msid msv my_time rssi =>
          have hcount : appendsTo .AX_record (.ax version zf_list msid msv my_time rssi :: run) =
              appendsTo .AX_record run + 1 := by simp [appendsTo, Append.log]
          have hlog := (h.ax version zf_list msid msv my_time rssi).1
          rw [h.grown_eq] at hlog
          have hle := h.le
          have hmin : min (min (N + 1) AX5043_MAX + appendsTo .AX_record run) AX5043_MAX =
              min (N + (appendsTo .AX_record run + 1)) AX5043_MAX := by omega
          rw [hcount, ← hmin]
          exact ih hlog

end log

/-! ### What is shown of a slot -/

/-- The record in the slot that is shown is one of the fields that are shown. -/
def Displays (d : Dfs) (s : Shown) : Prop :=
  ∃ my_time, HoldsRecord d s.addr s.v s.data s.msid s.msv my_time (s.rssi % 0x10000).toNat

theorem dec_digits_mod (len n : ℕ) : dec_digits len (n % 10 ^ len) = dec_digits len n :=
  (dec_digits_eq_iff len _ n).mpr (Nat.mod_modEq n _)

/-- A record shows the lowest digits of its numbers. -/
theorem ax_record_cut (version : UInt8) (zf_list : Vector UInt8 10) (msid msv : ℕ)
    (my_time : Vector UInt8 7) (rssi : ℕ) :
    ax_record version zf_list (msid % 10 ^ 8) (msv % 10 ^ 6) my_time (rssi % 1000) =
      ax_record version zf_list msid msv my_time rssi := by
  have h₁ : rssi % 1000 / 100 % 10 = rssi / 100 % 10 := by omega
  have h₂ : rssi % 1000 / 10 % 10 = rssi / 10 % 10 := by omega
  have h₃ : rssi % 1000 % 10 = rssi % 10 := by omega
  unfold ax_record
  simp only [dec_digits_mod, h₁, h₂, h₃]

theorem get_ax_Record_ax5043_len (d : Dfs) (s : ℕ) :
    (d.get_ax_Record s).2.ax5043_len = d.ax5043_len := by
  unfold get_ax_Record opening
  dsimp only
  split_ifs <;> rfl

section shown
variable {w : World} {N : ℕ}

/-- A slot of the log is shown under its own index, and the log stays as it is. -/
theorem AxLog.show_slot (h : AxLog w.dfs N) {s : ℕ} (hs : s < N) :
    AxLog (w.show_slot s).dfs N ∧ (w.show_slot s).dfs.ax5043_len = w.dfs.ax5043_len ∧
      (w.show_slot s).dfs.fs.content .AX_record = w.dfs.fs.content .AX_record ∧
      ∃ shown, (w.show_slot s).screen = some shown ∧ shown.addr = s ∧
        Displays (w.show_slot s).dfs shown := by
  obtain ⟨version, zf_list, msid, msv, my_time, rssi, hheld⟩ := h.records s hs
  have hcontent : (w.show_slot s).dfs.fs.content .AX_record = w.dfs.fs.content .AX_record :=
    congrFun (get_ax_Record_slot h.works (ax_record_length ..) hheld).2.1 .AX_record
  have hlen : (w.show_slot s).dfs.ax5043_len = w.dfs.ax5043_len := get_ax_Record_ax5043_len _ _
  refine ⟨h.of_eq hcontent hlen (get_ax_Record_openOk _ _), hlen, hcontent, _,
    show_slot_record h.works hheld, rfl, my_time, ?_⟩
  have hrssi : (((rssi % 1000 : ℕ) : ℤ) % 0x10000).toNat = rssi % 1000 := by omega
  simp only [HoldsRecord, shown_record, hcontent, hrssi, ax_record_cut]
  exact hheld

end shown

/-! ### The rest of the program -/

/-- A statement that has nothing to do with the radio log and its browser. -/
structure Spared (w w' : World) : Prop where
  content : w'.dfs.fs.content .AX_record = w.dfs.fs.content .AX_record
  counter : w.dfs.ax5043_len ≤ AX5043_MAX → w'.dfs.ax5043_len = w.dfs.ax5043_len
  openOk : w'.dfs.fs.openOk = w.dfs.fs.openOk
  screen : w'.screen = w.screen
  show_ax_addr : w'.show_ax_addr = w.show_ax_addr

section spared
variable {w w' w'' : World}

theorem Spared.trans (h : Spared w w') (h' : Spared w' w'') : Spared w w'' where
  content := h'.content.trans h.content
  counter := fun hle => by
    have hlen := h.counter hle
    exact (h'.counter (by omega)).trans hlen
  openOk := h'.openOk.trans h.openOk
  screen := h'.screen.trans h.screen
  show_ax_addr := h'.show_ax_addr.trans h.show_ax_addr

theorem spared_plain (h : w'.dfs = w.dfs ∧ w'.screen = w.screen ∧
    w'.show_ax_addr = w.show_ax_addr := by exact ⟨rfl, rfl, rfl⟩) : Spared w w' :=
  ⟨by rw [h.1], fun _ => by rw [h.1], by rw [h.1], h.2.1, h.2.2⟩

theorem Spared.refl (w : World) : Spared w w := spared_plain

theorem set_Record_txt_spared (r_len : ℕ) (w : World) :
    Spared w (w.set_Record_txt r_len w.dfs.get_ax5045len_data) := by
  refine ⟨Dfs.opening_content (fun _ => by simp) fun _ => rfl, fun hle => ?_,
    Dfs.set_Record_txt_openOk _ _ _ _, rfl, rfl⟩
  simp only [World.set_Record_txt, Dfs.set_Record_txt, opening, get_ax5045len_data]
  split_ifs
  · exact Nat.mod_eq_of_lt (Nat.lt_succ_of_le hle)
  · rfl

theorem set_record_spared (w : World) : Spared w w.set_record := by
  refine ⟨Dfs.opening_content (fun d => d.put_record_content_ne (by decide) _ _) fun _ => rfl,
    fun _ => ?_, Dfs.set_record_openOk _ _ _ _ _, rfl, rfl⟩
  simp only [World.set_record, call_file, Dfs.set_record, opening]
  split_ifs <;> rfl

theorem set_MSID_spared (w : World) : Spared w w.set_MSID := by
  refine ⟨Dfs.opening_content (fun _ => by simp) fun _ => rfl, fun _ => ?_,
    Dfs.set_MSID_openOk _ _ _ _, rfl, rfl⟩
  simp only [World.set_MSID, call_file, Dfs.set_MSID, opening]
  split_ifs <;> rfl

theorem get_MSID_spared (w : World) : Spared w w.get_MSID := by
  have hdfs : (w.dfs.get_MSID w.MSID).2.fs.content .AX_record = w.dfs.fs.content .AX_record ∧
      (w.dfs.get_MSID w.MSID).2.ax5043_len = w.dfs.ax5043_len := by
    unfold Dfs.get_MSID opening
    dsimp only
    split_ifs <;> simp
  exact ⟨hdfs.1, fun _ => hdfs.2, Dfs.get_MSID_openOk _ _, rfl, rfl⟩

theorem GetTime_spared : MS_thread_GetTime.All Spared :=
  ⟨fun _ => spared_plain, fun _ => spared_plain, trivial⟩

theorem SetTime_spared : MS_thread_SetTime.All Spared :=
  ⟨fun _ => spared_plain, fun _ => spared_plain, fun _ => spared_plain,
    ⟨fun _ => spared_plain, trivial⟩, ⟨fun _ => spared_plain, trivial⟩,
    ⟨fun _ => spared_plain, trivial⟩, fun _ => spared_plain, trivial⟩

theorem settings_spared : MS_thread_SettingMs.All Spared := by
  have hredraw : redraw.All Spared := fun _ => spared_plain
  have hwrite : write_digit.All Spared :=
    ⟨⟨trivial, fun _ => spared_plain, trivial⟩, ⟨trivial, fun _ => spared_plain, trivial⟩,
      ⟨trivial, fun _ => spared_plain, trivial⟩, trivial⟩
  have hdigit : digit_key.All Spared :=
    ⟨hwrite, fun _ => spared_plain,
      ⟨⟨fun _ => spared_plain, trivial⟩, fun _ => spared_plain, trivial⟩, hredraw, trivial⟩
  have hup : up_key.All Spared :=
    ⟨⟨fun _ => spared_plain, trivial⟩, ⟨fun _ => spared_plain, fun _ => spared_plain⟩, hredraw,
      trivial⟩
  have hdown : down_key.All Spared :=
    ⟨⟨fun _ => spared_plain, trivial⟩, fun _ => spared_plain, fun _ => spared_plain, hredraw,
      trivial⟩
  have hleft : left_key.All Spared :=
    ⟨⟨fun _ => spared_plain, fun _ => spared_plain, fun _ => spared_plain⟩, hredraw, trivial⟩
  have hright : right_key.All Spared :=
    ⟨fun _ => spared_plain, ⟨fun _ => spared_plain, fun _ => spared_plain⟩, hredraw, trivial⟩
  have hrow : time_row.All Spared :=
    ⟨⟨fun _ => spared_plain, trivial⟩, ⟨fun _ => spared_plain, SetTime_spared, trivial⟩, trivial⟩
  have hreturn : return_key.All Spared :=
    ⟨⟨fun _ => spared_plain, hredraw, trivial⟩,
      ⟨fun _ => spared_plain, hredraw, fun _ => spared_plain, trivial⟩,
      fun _ => spared_plain, fun _ => spared_plain, trivial⟩
  have hok : ok_key.All Spared :=
    ⟨⟨set_MSID_spared, ⟨⟨fun _ => spared_plain, SetTime_spared, trivial⟩, trivial⟩,
      fun _ => spared_plain, trivial⟩, trivial⟩
  exact ⟨⟨⟨fun _ => spared_plain, ⟨GetTime_spared, trivial⟩, trivial⟩, trivial⟩,
    ⟨⟨⟨hdigit, trivial⟩, ⟨hup, trivial⟩, ⟨hdown, trivial⟩, ⟨hleft, trivial⟩, ⟨hright, trivial⟩,
      ⟨hrow, trivial⟩, ⟨hreturn, trivial⟩, ⟨hok, trivial⟩, trivial⟩, trivial⟩,
    ⟨⟨fun _ => spared_plain, ⟨fun _ => spared_plain, trivial⟩, trivial⟩, trivial⟩, trivial⟩

/-- The functions outside the radio log do not touch it. -/
theorem functions_spared : ∀ k, k ≠ 10 → k ≠ 11 → k ≠ 12 → (MS_function k).All Spared := by
  have hredraw : redraw.All Spared := fun _ => spared_plain
  have hshow : show_settings.All Spared :=
    ⟨fun _ => spared_plain, fun _ => spared_plain, GetTime_spared, trivial⟩
  have hinit : MS_thread_init.All Spared :=
    ⟨fun _ => spared_plain, fun _ => spared_plain, get_MSID_spared, fun _ => spared_plain, trivial⟩
  have hselect : MS_thread_SelectMode.All Spared :=
    ⟨⟨fun _ => spared_plain, trivial⟩,
      ⟨⟨⟨⟨fun _ => spared_plain, hredraw, trivial⟩, trivial⟩,
        ⟨⟨fun _ => spared_plain, fun _ => spared_plain, hredraw, trivial⟩, trivial⟩,
        ⟨⟨fun _ => spared_plain, fun _ => spared_plain, ⟨GetTime_spared, trivial⟩,
          ⟨fun _ => spared_plain, trivial⟩, trivial⟩, trivial⟩, trivial⟩, trivial⟩, trivial⟩
  have hsteps : TestSteps Spared :=
    ⟨fun _ _ => spared_plain, fun _ => spared_plain, fun _ => spared_plain,
      fun _ _ => spared_plain, fun _ _ => spared_plain, fun _ _ _ => spared_plain,
      fun _ _ => spared_plain, fun _ => spared_plain⟩
  have htest : MS_thread_test.All Spared :=
    ⟨fun _ => spared_plain, ⟨hsteps.test0, hsteps.test1⟩, fun _ => spared_plain, trivial,
      set_record_spared, fun w => set_Record_txt_spared _ w, trivial⟩
  have herror : MS_thread_ERROR.All Spared :=
    ⟨⟨fun _ => spared_plain, trivial⟩, fun _ => spared_plain, ⟨fun _ => spared_plain, trivial⟩,
      ⟨hshow, trivial⟩, trivial⟩
  have hinc : ∀ len, (increment len).All Spared :=
    increment_all (fun _ _ => spared_plain) fun _ _ _ => spared_plain
  have hpass : MS_thread_pass.All Spared :=
    ⟨⟨trivial, ⟨hinc 8, hinc 6⟩, set_MSID_spared, hshow, trivial⟩, trivial⟩
  exact MS_function_cases (Q := fun k p => k ≠ 10 → k ≠ 11 → k ≠ 12 → p.All Spared)
    (fun _ _ _ => hinit) (fun _ _ _ => hselect) (fun _ _ _ => settings_spared) (fun _ _ _ => htest)
    (fun _ _ _ => herror) (fun _ _ _ => hpass) (fun h => absurd rfl h) (fun _ h => absurd rfl h)
    (fun _ _ h => absurd rfl h) fun _ _ _ _ => trivial

theorem other_turn_spared (h₁₀ : w.MS ≠ 10) (h₁₁ : w.MS ≠ 11) (h₁₂ : w.MS ≠ 12)
    (h : Task.main.go w = some w') : Spared w w' := by
  rw [Task.go, main_turn_go] at h
  obtain ⟨v, hv, rfl⟩ := Option.map_eq_some_iff.mp h
  have hkeeps : (MS_function w.MS).Keeps (Spared w.entered) :=
    (functions_spared w.MS h₁₀ h₁₁ h₁₂).keeps fun _ _ hs hu => hu.trans hs
  have hfunction := (Keeps.unchecked hkeeps).exec (.refl w.entered) hv
  have hentered : Spared w w.entered := spared_plain
  have hticked : Spared v v.ticked := spared_plain
  exact (hentered.trans hfunction).trans hticked

theorem radio_spared {rssi : ℤ} {rx_buffer : List UInt8} {rx_len : ℕ}
    (h : (Task.radio rssi rx_buffer rx_len).go w = some w') : Spared w w' := by
  obtain rfl := Option.some.inj h
  exact spared_plain

end spared

/-! ### The turns of the browser -/

/-- Where an arrow leads from the slot `i`: UP and LEFT to the one before, DOWN and RIGHT to the one
behind. -/
def arrow_index (N key i : ℕ) : ℕ :=
  if key = BUTTON_UP ∨ key = BUTTON_LEFT then Carousel.prev N i else Carousel.next N i

/-- Where the cursor leads. -/
def reached (N key show_ax_addr : ℕ) : ℕ :=
  if key = BUTTON_UP ∨ key = BUTTON_LEFT then
    if show_ax_addr ≠ 0 then show_ax_addr - 1 else N - 1
  else (show_ax_addr + 1) % N

/-- The cursor stands on the slot `i`, or one place further. -/
def Close (show_ax_addr i : ℕ) : Prop := show_ax_addr = i ∨ show_ax_addr = i + 1

section reached
variable {N key show_ax_addr i : ℕ}

theorem reached_lt (h : Close show_ax_addr i) (hi : i < N) : reached N key show_ax_addr < N := by
  unfold reached
  split_ifs
  · rcases h with h | h <;> omega
  · omega
  · exact Nat.mod_lt _ (by omega)

/-- **An arrow** leads where it should exactly if the cursor stands on the slot that is shown, or
there is one slot only. -/
theorem reached_eq_iff (h : Close show_ax_addr i) (hi : i < N) :
    reached N key show_ax_addr = arrow_index N key i ↔ show_ax_addr = i ∨ N = 1 := by
  unfold reached arrow_index
  rcases h with rfl | rfl
  · refine iff_of_true ?_ (.inl rfl)
    split_ifs with hk h₀
    · rw [Carousel.prev_eq_ite hi, if_neg h₀]
    · rw [Carousel.prev_eq_ite hi, if_pos (not_not.mp h₀)]
    · rfl
  · have hne : ¬ i + 1 = i := by omega
    rw [or_iff_right hne]
    split_ifs with hk h₀
    · rw [Nat.add_sub_cancel, eq_comm]
      exact Carousel.prev_eq_self_iff hi
    · exact absurd (Nat.succ_ne_zero i) h₀
    · have hlt : Carousel.next N i < N := Carousel.next_lt (by omega) i
      have hnext : (i + 1 + 1) % N = Carousel.next N (Carousel.next N i) := by
        simp [Carousel.next, Nat.add_mod]
      rw [hnext]
      exact Carousel.next_eq_self_iff hlt

end reached

namespace World

/-- The append of the packet in the decoder. -/
def packet_append (w : World) : Append :=
  .ax w.radio.v w.radio.Controllable_Ms_flag w.radio.msid w.radio.msv w.my_time (rssi16 w.radio)

/-- What is shown of the packet in the decoder. -/
def packet_screen (w : World) (addr : ℕ) : Shown where
  msid := w.radio.msid
  msv := w.radio.msv
  v := w.radio.v
  data := w.radio.Controllable_Ms_flag
  rssi := -w.radio.ax_rssi
  addr := addr

/-- The slot before the counter `len`, as the packet is shown. -/
def newest (len : ℕ) : ℕ := ((if len = 0 then AX5043_MAX else len) + 0xffff) % 0x10000

section packet
variable (w : World)

theorem packet_stored_dfs : w.packet_stored.dfs = w.packet_append.exec w.dfs := rfl

theorem packet_handled_dfs : w.packet_handled.dfs = w.packet_append.exec w.dfs := by
  rw [← packet_stored_dfs]
  simp only [packet_handled, packet_shown, show_ax_data, get_date, tick]

theorem packet_handled_cursor :
    w.packet_handled.show_ax_addr = (w.packet_append.exec w.dfs).ax5043_len := by
  rw [← packet_stored_dfs]
  simp only [packet_handled, get_ax5045len_data]

theorem packet_handled_screen : w.packet_handled.screen =
    some (w.packet_screen (newest (w.packet_append.exec w.dfs).ax5043_len)) := by
  rw [← packet_stored_dfs]
  simp only [packet_handled, packet_shown, show_ax_data, get_date, tick, packet_screen,
    get_ax5045len_data]
  rfl

end packet

end World

theorem newest_eq {len : ℕ} (h : len ≤ AX5043_MAX) :
    newest len = if len = 0 then AX5043_MAX - 1 else len - 1 := by
  have hmax : AX5043_MAX = 50000 := rfl
  unfold newest
  generalize AX5043_MAX = max at h hmax ⊢
  split_ifs <;> omega

/-- The packet is shown under its own slot unless it closes the round of the counter. -/
theorem newest_eq_slot_iff {len : ℕ} (h : len ≤ AX5043_MAX) :
    newest ((len + 1) % (AX5043_MAX + 1)) = len % AX5043_MAX ↔ len ≠ AX5043_MAX := by
  have hle : (len + 1) % (AX5043_MAX + 1) ≤ AX5043_MAX :=
    Nat.le_of_lt_succ (Nat.mod_lt _ (Nat.succ_pos _))
  rw [newest_eq hle]
  unfold AX5043_MAX at h ⊢
  split_ifs <;> omega

/-! ### The invariant -/

/-- The slot that is shown is one of the `N`, and holds the record that is shown. -/
structure InSlot (d : Dfs) (N : ℕ) (s : Shown) : Prop where
  lt : s.addr < N
  record : Displays d s

theorem InSlot.of_content {d d' : Dfs} {N : ℕ} {s : Shown} (h : InSlot d N s)
    (hc : d'.fs.content .AX_record = d.fs.content .AX_record) : InSlot d' N s := by
  refine ⟨h.lt, ?_⟩
  unfold Displays HoldsRecord
  rw [hc]
  exact h.record

/-- The log holds `N` records.  Before the first record is shown the counter is `0`; and unless it is
`0`, the record that is shown is in its slot, and the cursor close to it. -/
structure Browsable (N : ℕ) (w : World) : Prop where
  log : AxLog w.dfs N
  pos : 1 ≤ N
  blank : w.screen = none → w.MS = 11 ∨ w.MS = 12 → w.dfs.ax5043_len = 0
  shown : ∀ s, w.screen = some s → w.dfs.ax5043_len ≠ 0 →
    InSlot w.dfs N s ∧ Close w.show_ax_addr s.addr

section browsable
variable {N : ℕ} {w w' : World}

theorem Browsable.spared (h : Browsable N w) (hs : Spared w w')
    (hM : w'.MS = 11 ∨ w'.MS = 12 → w.MS = 11 ∨ w.MS = 12) : Browsable N w' := by
  have hlen := hs.counter (h.log.counter_le.trans h.log.le)
  refine ⟨h.log.of_eq hs.content hlen hs.openOk, h.pos, fun hb hM' => ?_, fun s hs' hc => ?_⟩
  · rw [hlen]
    exact h.blank (hs.screen ▸ hb) (hM hM')
  · rw [hlen] at hc
    rw [hs.show_ax_addr]
    exact (h.shown s (hs.screen ▸ hs') hc).imp_left fun hin => hin.of_content hs.content

/-- The slot `addr` has been chosen and shown. -/
structure Picked (N : ℕ) (w w' : World) (addr : ℕ) : Prop where
  log : AxLog w'.dfs N
  counter : w'.dfs.ax5043_len = w.dfs.ax5043_len
  content : w'.dfs.fs.content .AX_record = w.dfs.fs.content .AX_record
  shown : ∃ s, w'.screen = some s ∧ s.addr = addr ∧ InSlot w'.dfs N s

theorem AxLog.picked {v : World} (h : AxLog w.dfs N) (hd : v.dfs = w.dfs) {addr : ℕ}
    (ha : addr < N) : Picked N w (v.show_slot addr) addr := by
  rw [← hd] at h
  obtain ⟨hlog, hlen, hcontent, s, hs, heq, hrecord⟩ := h.show_slot ha
  refine ⟨hlog, by rw [hlen, hd], by rw [hcontent, hd], s, hs, heq, ?_, hrecord⟩
  rw [heq]
  exact ha

theorem Picked.browsable {addr : ℕ} (h : Picked N w w' addr) (hN : 1 ≤ N)
    (hclose : Close w'.show_ax_addr addr) : Browsable N w' := by
  obtain ⟨s, hs, heq, hin⟩ := h.shown
  refine ⟨h.log, hN, fun hb => ?_, fun s' hs' _ => ?_⟩
  · rw [hs] at hb
    cases hb
  · rw [hs] at hs'
    obtain rfl := Option.some.inj hs'
    rw [heq]
    exact ⟨hin, hclose⟩

end browsable

/-! ### Turns -/

theorem ax_key_back {w : World} (h : w.button_number = BUTTON_UP ∨ w.button_number = BUTTON_LEFT) :
    w.ax_key = w.back_pressed := by
  rcases h with h | h <;> simp [ax_key, h, BUTTON_UP, BUTTON_LEFT]

theorem ax_key_forward {w : World}
    (h : w.button_number = BUTTON_DOWN ∨ w.button_number = BUTTON_RIGHT) :
    w.ax_key = w.forward_pressed := by
  rcases h with h | h <;>
    simp [ax_key, h, BUTTON_UP, BUTTON_LEFT, BUTTON_DOWN, BUTTON_RIGHT]

section turns
variable {N : ℕ} {w w' : World}

theorem date_blinked_dfs (w : World) : w.date_blinked.dfs = w.dfs := by
  unfold date_blinked
  split_ifs <;> rfl

theorem entered_blinked_spared (w : World) : Spared w w.entered.date_blinked := by
  have hentered : Spared w w.entered := spared_plain
  apply hentered.trans
  unfold date_blinked
  split_ifs <;> exact spared_plain

/-- The arrows of a log that is not empty, while records are shown. -/
theorem arrow_key_eq {v : World} (ht : v.time_number = 20) (hk : Arrow v.button_number)
    (hc : v.dfs.get_ax5045len_data ≠ 0) : v.ax_key = v.browsed
      (if v.button_number = BUTTON_UP ∨ v.button_number = BUTTON_LEFT then v.back_addr
      else v.forward_addr) := by
  by_cases hback : v.button_number = BUTTON_UP ∨ v.button_number = BUTTON_LEFT
  · rw [ax_key_back hback, back_pressed, if_pos ht, if_pos hc, if_pos hback]
  · have hforward : v.button_number = BUTTON_DOWN ∨ v.button_number = BUTTON_RIGHT := by
      obtain ⟨hup, hleft⟩ := not_or.mp hback
      rcases hk with hk | hk | hk | hk
      · exact absurd hk hup
      · exact .inl hk
      · exact absurd hk hleft
      · exact .inr hk
    rw [ax_key_forward hforward, forward_pressed, if_pos ht, if_pos hc, if_neg hback]

/-- **An arrow** picks the slot that the cursor leads to. -/
theorem Browsable.arrow_turn (hb : Browsable N w) (hM : w.MS = 11) (ht : w.time_number = 20)
    (hk : Arrow w.now.button) (hc : w.dfs.ax5043_len ≠ 0) {s : Shown} (hs : w.screen = some s)
    (h : Task.main.go w = some w') :
    Picked N w w' (reached N w.now.button w.show_ax_addr) ∧
      w'.show_ax_addr = reached N w.now.button w.show_ax_addr := by
  rw [ax_turn hM] at h
  obtain rfl := Option.some.inj h
  obtain ⟨hin, hclose⟩ := hb.shown s hs hc
  have hspared := entered_blinked_spared w
  obtain ⟨htime, hbutton⟩ := date_blinked_cursor w.entered
  have hdfs : w.entered.date_blinked.dfs = w.dfs := date_blinked_dfs w.entered
  have hnumber : stat_number w.entered.date_blinked = N := by
    rw [MeterTester.stat_number, hdfs]
    exact hb.log.stat_number hb.pos
  have hle : N ≤ 50000 := hb.log.le
  have hfar : w.show_ax_addr ≤ 50000 := by
    have hlt := hin.lt
    rcases hclose with hclose | hclose <;> omega
  have hreached : (if w.entered.date_blinked.button_number = BUTTON_UP ∨
      w.entered.date_blinked.button_number = BUTTON_LEFT then w.entered.date_blinked.back_addr
      else w.entered.date_blinked.forward_addr) = reached N w.now.button w.show_ax_addr := by
    rw [hbutton, back_addr, forward_addr, hnumber, hspared.show_ax_addr, reached,
      Nat.mod_eq_of_lt (show w.show_ax_addr + 1 < 0x10000 by omega),
      show (N + 0xffff) % 0x10000 = N - 1 by have := hb.pos; omega]
    rfl
  have hlt : reached N w.now.button w.show_ax_addr < N := reached_lt hclose hin.lt
  rw [arrow_key_eq (htime.trans ht) (by rw [hbutton]; exact hk) (by rw [hdfs]; exact hc), hreached]
  generalize reached N w.now.button w.show_ax_addr = addr at hlt
  have hpicked : Picked N w (w.entered.date_blinked.browsed addr) addr :=
    hb.log.picked (v := { w.entered.date_blinked with show_ax_addr := addr }) hdfs hlt
  exact ⟨⟨hpicked.log, hpicked.counter, hpicked.content, hpicked.shown⟩, rfl⟩

theorem date_moved_spared (w : World) (t : ℕ) : Spared w (w.date_moved t) := spared_plain

theorem clock_sent_spared (w : World) (t : Vector UInt8 7) (calls : List Event) :
    Spared w (w.clock_sent t calls) := spared_plain

/-- The other keys of state `11`, and the arrows while the counter is `0` or the date is edited. -/
theorem ax_key_spared {v : World}
    (h : ¬ (v.time_number = 20 ∧ Arrow v.button_number ∧ v.dfs.get_ax5045len_data ≠ 0)) :
    Spared v v.ax_key := by
  unfold ax_key
  split_ifs with h₁ h₂ h₃ h₄ h₅
  · unfold digit_pressed
    split_ifs
    · exact spared_plain
    · exact .refl v
  · unfold back_pressed
    by_cases ht : v.time_number = 20
    · have hk : Arrow v.button_number := h₂.elim .inl fun hl => .inr (.inr (.inl hl))
      rw [if_pos ht, if_neg fun hc => h ⟨ht, hk, hc⟩]
      exact .refl v
    · rw [if_neg ht]
      exact spared_plain
  · unfold forward_pressed
    by_cases ht : v.time_number = 20
    · have hk : Arrow v.button_number := h₃.elim (fun hd => .inr (.inl hd)) fun hr =>
        .inr (.inr (.inr hr))
      rw [if_pos ht, if_neg fun hc => h ⟨ht, hk, hc⟩]
      exact .refl v
    · rw [if_neg ht]
      exact spared_plain
  · unfold ok_pressed
    split_ifs
    · exact date_moved_spared v 0
    · exact (clock_sent_spared v _ _).trans (date_moved_spared _ 20)
  · unfold return_pressed
    split_ifs <;> exact spared_plain
  · exact .refl v

theorem idle_turn_spared (hM : w.MS = 11) (h : Task.main.go w = some w')
    (hidle : ¬ (w.time_number = 20 ∧ Arrow w.now.button ∧ w.dfs.ax5043_len ≠ 0)) :
    Spared w w' := by
  rw [ax_turn hM] at h
  obtain rfl := Option.some.inj h
  obtain ⟨htime, hbutton⟩ := date_blinked_cursor w.entered
  have hdfs : w.entered.date_blinked.dfs = w.dfs := date_blinked_dfs w.entered
  have hkey : Spared w.entered.date_blinked w.entered.date_blinked.ax_key := by
    apply ax_key_spared
    rw [htime, hbutton, hdfs]
    exact hidle
  have hticked : Spared w.entered.date_blinked.ax_key w.entered.date_blinked.ax_key.ticked :=
    spared_plain
  exact ((entered_blinked_spared w).trans hkey).trans hticked

/-- **The entry of the log** clears the display, and shows the newest record if the counter knows of one. -/
theorem Browsable.entry_turn (hb : Browsable N w) (hM : w.MS = 10)
    (h : Task.main.go w = some w') : (w.dfs.ax5043_len = 0 → w'.dfs = w.dfs ∧
      w'.screen = none) ∧ (w.dfs.ax5043_len ≠ 0 →
        Picked N w w' (w.dfs.ax5043_len - 1) ∧ w'.show_ax_addr = w.dfs.ax5043_len) := by
  rw [ax_start_turn hM] at h
  obtain rfl := Option.some.inj h
  refine ⟨fun hc => ?_, fun hc => ?_⟩
  · have hshown : w.entered.log_shown = w.entered.log_opened := if_neg (not_not.mpr hc)
    rw [log_entered, hshown]
    exact ⟨rfl, rfl⟩
  · have hlt : w.dfs.ax5043_len - 1 < N := by
      have := hb.log.counter_le
      omega
    have hpicked := hb.log.picked (v := w.entered.log_opened) rfl hlt
    have hshown : w.entered.log_shown = w.entered.log_opened.show_slot (w.dfs.ax5043_len - 1) :=
      if_pos hc
    rw [log_entered, hshown]
    exact ⟨⟨hpicked.log, hpicked.counter, hpicked.content, hpicked.shown⟩, rfl⟩

/-- **The turn of a packet.** -/
theorem Browsable.packet_turn (hb : Browsable N w) (hM : w.MS = 12)
    (h : Task.main.go w = some w') : Browsable (grown N w.dfs.ax5043_len) w' ∧
      w'.dfs.ax5043_len = (w.dfs.ax5043_len + 1) % (AX5043_MAX + 1) ∧
      w'.screen = some (w.packet_screen (newest ((w.dfs.ax5043_len + 1) % (AX5043_MAX + 1)))) ∧
      HoldsRecord w'.dfs (w.dfs.ax5043_len % AX5043_MAX) w.radio.v w.radio.Controllable_Ms_flag
        w.radio.msid w.radio.msv w.my_time (rssi16 w.radio) := by
  rw [ax_refresh_turn hM] at h
  obtain rfl := Option.some.inj h
  have hle : w.dfs.ax5043_len ≤ AX5043_MAX := hb.log.counter_le.trans hb.log.le
  obtain ⟨hlog, hlen, hheld⟩ := hb.log.ax w.radio.v w.radio.Controllable_Ms_flag w.radio.msid
    w.radio.msv w.my_time (rssi16 w.radio)
  have hdfs : w.entered.packet_handled.ticked.dfs = w.packet_append.exec w.dfs :=
    packet_handled_dfs w.entered
  have hcursor : w.entered.packet_handled.ticked.show_ax_addr =
      (w.packet_append.exec w.dfs).ax5043_len := packet_handled_cursor w.entered
  have hscreen : w.entered.packet_handled.ticked.screen =
      some (w.packet_screen (newest (w.packet_append.exec w.dfs).ax5043_len)) :=
    packet_handled_screen w.entered
  have hlen' : (w.packet_append.exec w.dfs).ax5043_len =
      (w.dfs.ax5043_len + 1) % (AX5043_MAX + 1) := hlen
  rw [hdfs, hscreen, hlen']
  refine ⟨⟨by rw [hdfs]; exact hlog, hb.pos.trans (le_max_left _ _), fun hblank => ?_,
    fun s hs hc => ?_⟩, rfl, rfl, hheld⟩
  · rw [hscreen] at hblank
    cases hblank
  · rw [hscreen, hlen'] at hs
    rw [hdfs, hlen'] at hc
    rw [hdfs, hcursor, hlen']
    have hround : w.dfs.ax5043_len ≠ AX5043_MAX := by
      intro hround
      rw [hround, Nat.mod_self] at hc
      exact hc rfl
    have haddr := (newest_eq_slot_iff hle).mpr hround
    rw [haddr] at hs
    obtain rfl := Option.some.inj hs
    have hmax : AX5043_MAX = 50000 := rfl
    have hslot : w.dfs.ax5043_len % AX5043_MAX = w.dfs.ax5043_len := Nat.mod_eq_of_lt (by omega)
    refine ⟨⟨?_, w.my_time, hheld⟩, .inr ?_⟩
    · exact lt_of_lt_of_le (Nat.lt_succ_self _) (le_max_right _ _)
    · rw [Nat.mod_eq_of_lt (by omega)]
      exact congrArg (· + 1) hslot.symm

end turns

/-! ### One task -/

/-- The turn is an arrow while records are shown, and the counter knows of a record. -/
def Arrows (w : World) : Prop :=
  w.MS = 11 ∧ w.time_number = 20 ∧ Arrow w.now.button ∧ w.dfs.ax5043_len ≠ 0

/-- The task neither shows nor stores a record. -/
structure Idle (N : ℕ) (t : Task) (w w' : World) : Prop where
  browsable : Browsable N w'
  counter : w'.dfs.ax5043_len = w.dfs.ax5043_len
  content : w'.dfs.fs.content .AX_record = w.dfs.fs.content .AX_record
  screen : w'.screen = w.screen
  cursor : (t = .main → w.MS ≠ 10) → w'.show_ax_addr = w.show_ax_addr
  turn : t = .main → w.MS ≠ 12 ∧ ¬ Arrows w

/-- What a task does to the browser. -/
inductive Goes (N : ℕ) (t : Task) (w w' : World) : Prop
  | idle (h : Idle N t w w')
  | blank (ht : t = .main) (hM : w.MS = 10) (hb : Browsable N w') (hs : w'.screen = none)
  | entry (ht : t = .main) (hM : w.MS = 10) (hc : w.dfs.ax5043_len ≠ 0) (hb : Browsable N w')
      (hp : Picked N w w' (w.dfs.ax5043_len - 1))
  | arrow (ht : t = .main) (ha : Arrows w) (hb : Browsable N w')
      (hp : Picked N w w' (reached N w.now.button w.show_ax_addr))
      (hcursor : w'.show_ax_addr = reached N w.now.button w.show_ax_addr)
  | packet (ht : t = .main) (hM : w.MS = 12) (hb : Browsable (grown N w.dfs.ax5043_len) w')
      (hc : w'.dfs.ax5043_len = (w.dfs.ax5043_len + 1) % (AX5043_MAX + 1))
      (hs : w'.screen =
        some (w.packet_screen (newest ((w.dfs.ax5043_len + 1) % (AX5043_MAX + 1)))))
      (hr : HoldsRecord w'.dfs (w.dfs.ax5043_len % AX5043_MAX) w.radio.v
        w.radio.Controllable_Ms_flag w.radio.msid w.radio.msv w.my_time (rssi16 w.radio))

section tasks
variable {N : ℕ} {t : Task} {w w' : World}

theorem Browsable.idle (hb : Browsable N w) (hs : Spared w w')
    (hM : w'.MS = 11 ∨ w'.MS = 12 → w.MS = 11 ∨ w.MS = 12)
    (ht : t = .main → w.MS ≠ 12 ∧ ¬ Arrows w) : Goes N t w w' :=
  .idle ⟨hb.spared hs hM, hs.counter (hb.log.counter_le.trans hb.log.le), hs.content, hs.screen,
    fun _ => hs.show_ax_addr, ht⟩

/-- **Every task** is idle, or shows the newest record, or the one of an arrow, or a packet. -/
theorem Browsable.goes (hb : Browsable N w) (h : t.go w = some w') : Goes N t w w' := by
  cases t with
  | radio rssi rx_buffer rx_len =>
      have hMS := (radio_task_kept h).2.2
      exact hb.idle (radio_spared h) (by omega) nofun
  | main =>
      by_cases h₁₀ : w.MS = 10
      · obtain ⟨hzero, hpick⟩ := hb.entry_turn h₁₀ h
        by_cases hc : w.dfs.ax5043_len = 0
        · obtain ⟨hdfs, hscreen⟩ := hzero hc
          refine .blank rfl h₁₀ ⟨by rw [hdfs]; exact hb.log, hb.pos, fun _ _ => by rw [hdfs, hc],
            fun _ _ hne => ?_⟩ hscreen
          rw [hdfs] at hne
          exact absurd hc hne
        · obtain ⟨hp, hcursor⟩ := hpick hc
          refine .entry rfl h₁₀ hc (hp.browsable hb.pos (.inr ?_)) hp
          omega
      by_cases h₁₂ : w.MS = 12
      · obtain ⟨hb', hc, hs, hr⟩ := hb.packet_turn h₁₂ h
        exact .packet rfl h₁₂ hb' hc hs hr
      by_cases h₁₁ : w.MS = 11
      · by_cases ha : w.time_number = 20 ∧ Arrow w.now.button ∧ w.dfs.ax5043_len ≠ 0
        · obtain ⟨ht, hk, hc⟩ := ha
          obtain ⟨s, hs⟩ : ∃ s, w.screen = some s := by
            cases hs : w.screen with
            | none => exact absurd (hb.blank hs (.inl h₁₁)) hc
            | some s => exact ⟨s, rfl⟩
          obtain ⟨hp, hcursor⟩ := hb.arrow_turn h₁₁ ht hk hc hs h
          exact .arrow rfl ⟨h₁₁, ht, hk, hc⟩ (hp.browsable hb.pos (.inl hcursor)) hp hcursor
        · exact hb.idle (idle_turn_spared h₁₁ h ha) (fun _ => .inl h₁₁)
            fun _ => ⟨h₁₂, fun har => ha har.2⟩
      · obtain ⟨-, hM'⟩ := other_turn_quiet h₁₀ h₁₁ h₁₂ h
        exact hb.idle (other_turn_spared h₁₀ h₁₁ h₁₂ h) (by omega)
          fun _ => ⟨h₁₂, fun har => h₁₁ har.1⟩

theorem Browsable.go (hb : Browsable N w) (h : t.go w = some w') : ∃ N', Browsable N' w' := by
  cases hb.goes h with
  | idle h => exact ⟨N, h.browsable⟩
  | blank _ _ hb' _ => exact ⟨N, hb'⟩
  | entry _ _ _ hb' _ => exact ⟨N, hb'⟩
  | arrow _ _ hb' _ _ => exact ⟨N, hb'⟩
  | packet _ _ hb' _ _ _ => exact ⟨_, hb'⟩

/-- What is shown is in its slot. -/
def ShownInSlot (w : World) : Prop := ∀ s, w.screen = some s → InSlot w.dfs (stat_number w) s

theorem Picked.shownInSlot {addr : ℕ} (h : Picked N w w' addr) (hN : 1 ≤ N) : ShownInSlot w' := by
  obtain ⟨s, hs, -, hin⟩ := h.shown
  intro s' hs'
  rw [hs] at hs'
  obtain rfl := Option.some.inj hs'
  rw [h.log.stat_number hN]
  exact hin

/-- What is newly shown is in its slot, unless it is a packet that finds the counter at its end; what is
still shown stays there. -/
theorem Goes.slot (h : Goes N t w w') (hb : Browsable N w)
    (hround : t = .main → w.MS = 12 → w.dfs.ax5043_len ≠ AX5043_MAX)
    (hs : ShownInSlot w ∨ w'.screen ≠ w.screen) : ShownInSlot w' := by
  cases h with
  | idle hi =>
      rcases hs with hs | hne
      · intro s hs'
        have hin := hs s (hi.screen ▸ hs')
        rw [hb.log.stat_number hb.pos] at hin
        rw [hi.browsable.log.stat_number hi.browsable.pos]
        exact hin.of_content hi.content
      · exact absurd hi.screen hne
  | blank _ _ _ hblank =>
      intro s hs'
      rw [hblank] at hs'
      cases hs'
  | entry _ _ _ _ hp => exact hp.shownInSlot hb.pos
  | arrow _ _ _ hp _ => exact hp.shownInSlot hb.pos
  | packet ht hM hb' hc _ _ =>
      have hle := hb.log.counter_le.trans hb.log.le
      have hne := hround ht hM
      have hc' : w'.dfs.ax5043_len ≠ 0 := by
        rw [hc, Nat.mod_eq_of_lt (by omega)]
        exact Nat.succ_ne_zero _
      intro s hs'
      rw [hb'.log.stat_number hb'.pos]
      exact (hb'.shown s hs' hc').1

/-- What is shown follows the log: an arrow moves the index that is shown to the neighbour and shows the
record there, a packet is shown under the slot that it has been stored in, and what is newly shown is in
its slot, as is what was there before. -/
structure Follows (t : Task) (w w' : World) : Prop where
  arrow : t = .main → w.MS = 11 → w.time_number = 20 → Arrow w.now.button →
    ∀ s, w.screen = some s → ∃ s', w'.screen = some s' ∧
      s'.addr = arrow_index (stat_number w) w.now.button s.addr ∧ InSlot w'.dfs (stat_number w') s'
  packet : t = .main → w.MS = 12 →
    w'.screen = some (w.packet_screen (w.dfs.ax5043_len % AX5043_MAX)) ∧
      HoldsRecord w'.dfs (w.dfs.ax5043_len % AX5043_MAX) w.radio.v w.radio.Controllable_Ms_flag
        w.radio.msid w.radio.msv w.my_time (rssi16 w.radio)
  slot : ShownInSlot w ∨ w'.screen ≠ w.screen → ShownInSlot w'

/-- An arrow finds the cursor on the slot that is shown, or one record only, and a counter other than
`0`; a packet does not find the counter at its end. -/
structure Steady (w : World) : Prop where
  arrow : w.MS = 11 → w.time_number = 20 → Arrow w.now.button → ∀ s, w.screen = some s →
    w.dfs.ax5043_len ≠ 0 ∧ (w.show_ax_addr = s.addr ∨ stat_number w = 1)
  packet : w.MS = 12 → w.dfs.ax5043_len ≠ AX5043_MAX

/-- Steady turns follow the log. -/
theorem Steady.follows (hst : t = .main → Steady w) (hb : Browsable N w)
    (h : t.go w = some w') : Follows t w w' := by
  have hgoes := hb.goes h
  refine ⟨fun ht hM ht₂₀ hk s hs => ?_, fun ht hM => ?_, fun hs => ?_⟩
  · obtain ⟨hc, hcursor⟩ := (hst ht).arrow hM ht₂₀ hk s hs
    cases hgoes with
    | idle hi => exact absurd ⟨hM, ht₂₀, hk, hc⟩ (hi.turn ht).2
    | blank _ hM' _ _ => omega
    | entry _ hM' _ _ _ => omega
    | arrow _ _ hb' hp _ =>
        obtain ⟨s', hs', haddr, hin'⟩ := hp.shown
        obtain ⟨hin, hclose⟩ := hb.shown s hs hc
        rw [hb.log.stat_number hb.pos] at hcursor ⊢
        rw [hb'.log.stat_number hb'.pos]
        exact ⟨s', hs', haddr.trans ((reached_eq_iff hclose hin.lt).mpr hcursor), hin'⟩
    | packet _ hM' _ _ _ _ => omega
  · have hround := (hst ht).packet hM
    cases hgoes with
    | idle hi => exact absurd hM (hi.turn ht).1
    | blank _ hM' _ _ => omega
    | entry _ hM' _ _ _ => omega
    | arrow _ ha _ _ _ =>
        have := ha.1
        omega
    | packet _ _ _ _ hs' hr =>
        rw [(newest_eq_slot_iff (hb.log.counter_le.trans hb.log.le)).mpr hround] at hs'
        exact ⟨hs', hr⟩
  · exact hgoes.slot hb (fun ht => (hst ht).packet) hs

end tasks

/-! ### Walks -/

instance (key : ℕ) : Decidable (Arrow key) := by unfold Arrow; infer_instance

/-- The index that is shown behind the first `k` of the keys; keys other than the arrows leave it. -/
def walk (N : ℕ) (keys : ℕ → ℕ) (i : ℕ) : ℕ → ℕ
  | 0 => i
  | k + 1 => if Arrow (keys k) then arrow_index N (keys k) (walk N keys i k) else walk N keys i k

section walk
variable {N i : ℕ} {keys : ℕ → ℕ}

end walk

/-! ### Runs -/

section runs
variable (fs : Fs) (devices : ℕ → Device) (tasks : ℕ → Task)

/-- The turns from `a` up to `b` are steady. -/
def AllSteady (a b : ℕ) : Prop :=
  ∀ m, a ≤ m → m < b → ∀ w, state_of fs devices tasks m = some w → tasks m = .main → Steady w

/-- From task `m` on there are `k` turns while records are shown, with these keys. -/
def Pressed (m : ℕ) (keys : ℕ → ℕ) (k : ℕ) : Prop :=
  ∀ j < k, TurnWith fs devices tasks
    (fun w => w.MS = 11 ∧ w.time_number = 20 ∧ w.now.button = keys j) (m + j)

/-- Before task `m` the slot `i` of `N` is shown as it is, and the bytes of the log are `file`. -/
def SlotShown (m i N : ℕ) (file : List UInt8) : Prop :=
  ∃ w s, state_of fs devices tasks m = some w ∧ w.screen = some s ∧ s.addr = i ∧
    stat_number w = N ∧ InSlot w.dfs N s ∧ w.dfs.fs.content .AX_record = file

variable {fs devices tasks} {N : ℕ}

theorem browsable_state (hb : Browsable N (booted fs devices)) {n : ℕ} {w : World}
    (hw : state_of fs devices tasks n = some w) : ∃ N', Browsable N' w := by
  induction n generalizing w with
  | zero =>
      obtain rfl := Option.some.inj hw
      exact ⟨N, hb⟩
  | succ n ih =>
      obtain ⟨v, hv, -⟩ := Option.bind_eq_some_iff.mp hw
      rw [state_of_succ hv] at hw
      obtain ⟨N', hb'⟩ := ih hv
      exact hb'.go hw

/-- **A steady turn** moves the slot that is shown as its key says. -/
theorem SlotShown.key (hb : Browsable N (booted fs devices)) {m i M key : ℕ} {file : List UInt8}
    (hshown : SlotShown fs devices tasks m i M file) (hst : AllSteady fs devices tasks m (m + 1))
    (hp : TurnWith fs devices tasks
      (fun w => w.MS = 11 ∧ w.time_number = 20 ∧ w.now.button = key) m) :
    SlotShown fs devices tasks (m + 1) (if Arrow key then arrow_index M key i else i) M file := by
  obtain ⟨v, s, hv, hs, haddr, hnumber, hin, hcontent⟩ := hshown
  obtain ⟨ht, hM, ht₂₀, hkey⟩ := (turnWith_iff hv).mp hp
  obtain ⟨N', hb'⟩ := browsable_state hb hv
  have hsteady := hst m le_rfl (Nat.lt_succ_self m) v hv ht
  have hgo := ax_turn hM
  have hnext : state_of fs devices tasks (m + 1) = some v.entered.date_blinked.ax_key.ticked := by
    rw [state_of_succ hv, ht]
    exact hgo
  have hfollow := Steady.follows (t := .main) (fun _ => hsteady) hb' hgo
  have hM' : N' = M := (hb'.log.stat_number hb'.pos).symm.trans hnumber
  subst hM' hkey
  generalize v.entered.date_blinked.ax_key.ticked = v' at hgo hnext hfollow
  cases hb'.goes hgo with
  | idle hidle =>
      have hk : ¬ Arrow v.now.button := fun hk =>
        (hidle.turn rfl).2 ⟨hM, ht₂₀, hk, (hsteady.arrow hM ht₂₀ hk s hs).1⟩
      rw [if_neg hk]
      exact ⟨v', s, hnext, hidle.screen.trans hs, haddr,
        hidle.browsable.log.stat_number hidle.browsable.pos, hin.of_content hidle.content,
        hidle.content.trans hcontent⟩
  | arrow _ ha hbv hpicked _ =>
      have hk : Arrow v.now.button := ha.2.2.1
      have hnumber' := hbv.log.stat_number hbv.pos
      obtain ⟨s', hs', haddr', hin'⟩ := hfollow.arrow rfl hM ht₂₀ hk s hs
      rw [hnumber'] at hin'
      rw [hnumber, haddr] at haddr'
      rw [if_pos hk]
      exact ⟨v', s', hnext, hs', haddr', hnumber', hin', hpicked.content.trans hcontent⟩
  | blank _ hM₁₀ _ _ => omega
  | entry _ hM₁₀ _ _ _ => omega
  | packet _ hM₁₂ _ _ _ _ => omega

/-- **The keys of steady turns** lead through the log as they should. -/
theorem AllSteady.walk (hb : Browsable N (booted fs devices)) {m i M : ℕ} {keys : ℕ → ℕ}
    {file : List UInt8} (hshown : SlotShown fs devices tasks m i M file) {k : ℕ}
    (hst : AllSteady fs devices tasks m (m + k)) (hp : Pressed fs devices tasks m keys k) :
    SlotShown fs devices tasks (m + k) (MeterTester.walk M keys i k) M file := by
  induction k with
  | zero => exact hshown
  | succ k ih =>
      have hwalked := ih (fun j hmj hj => hst j hmj (by omega)) fun j hj => hp j (by omega)
      exact hwalked.key hb (fun j hmj hj => hst j (by omega) (by omega)) (hp k (Nat.lt_succ_self k))

theorem SlotShown.unique {m i i' M M' : ℕ} {file file' : List UInt8}
    (h : SlotShown fs devices tasks m i M file) (h' : SlotShown fs devices tasks m i' M' file') :
    i = i' := by
  obtain ⟨w, s, hw, hs, rfl, -⟩ := h
  obtain ⟨w', s', hw', hs', rfl, -⟩ := h'
  rw [hw] at hw'
  obtain rfl := Option.some.inj hw'
  rw [hs] at hs'
  obtain rfl := Option.some.inj hs'
  rfl

end runs

end MeterTester
