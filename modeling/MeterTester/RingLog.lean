import MeterTester.Dfs

/-! # The two record logs as rings

The main loop appends a meter record with `set_record` followed by
`set_Record_txt(record_len + 1, ax5043_len, version)`, and a radio record with `set_ax_record`
followed by `set_Record_txt(record_len, ax5043_len + 1, version)`.  A run is any interleaving of
the two; `writes` collects what it puts where.

The meter log is a ring: its counter and its slots both run modulo `RECORD_MAX`.  The counter of
the radio log runs modulo `AX5043_MAX + 1` while its slots run modulo `AX5043_MAX`, so that slot
`0` is written twice in a row on every turn (`ax_kept_iff`). -/

namespace MeterTester

open SlotFile Dfs

/-- One append of the main loop, with the arguments it passes. -/
inductive Append where
  | ms (choose : Fin 3) (zf_list : Vector UInt8 10) (ms_error : UInt8) (ms_time : Vector UInt8 7)
  | ax (version : UInt8) (zf_list : Vector UInt8 10) (msid msv : ℕ) (my_time : Vector UInt8 7)
      (rssi : ℕ)

namespace Append

/-- The calls as the main loop makes them; the counters are passed as `uint16_t`. -/
def exec : Append → Dfs → Dfs
  | ms choose zf_list ms_error ms_time, d =>
      let d := d.set_record choose zf_list ms_error ms_time
      d.set_Record_txt ((d.get_recordled_data + 1) % 0x10000) d.get_ax5045len_data d.get_version
  | ax version zf_list msid msv my_time rssi, d =>
      let d := d.set_ax_record version zf_list msid msv my_time rssi
      d.set_Record_txt d.get_recordled_data ((d.get_ax5045len_data + 1) % 0x10000) d.get_version

/-- The log an append goes to. -/
def log : Append → Path
  | ms .. => .MS_record
  | ax .. => .AX_record

/-- The bytes it puts there. -/
def record : Append → List UInt8
  | ms choose zf_list ms_error ms_time => ms_record choose zf_list ms_error ms_time
  | ax version zf_list msid msv my_time rssi => ax_record version zf_list msid msv my_time rssi

/-- The slot it puts them in. -/
def slot : Append → Dfs → ℕ
  | ms .., d => d.record_len
  | ax .., d => d.ax5043_len % AX5043_MAX

end Append

/-- Perform the appends of a run in order. -/
def appendAll (run : List Append) (d : Dfs) : Dfs := run.foldl (fun d a => a.exec d) d

/-- The slot writes to one log, oldest first. -/
def writes (p : Path) : List Append → Dfs → Log UInt8
  | [], _ => []
  | a :: run, d =>
      if a.log = p then (a.slot d, a.record) :: writes p run (a.exec d) else writes p run (a.exec d)

/-- Bytes of a record slot. -/
def MS_WIDTH : ℕ := 20
def AX_WIDTH : ℕ := 60

/-! ### Records fill their slots exactly -/

theorem cells_length (zf_list : Vector UInt8 10) {len : ℕ} (h : len ≤ 9) :
    (cells zf_list len).length = len := by
  simp [cells, h]

theorem dec_digits_length (len n : ℕ) : (dec_digits len n).length = len := by
  induction len generalizing n with
  | zero => rfl
  | succ len ih => simp [dec_digits, ih]

theorem ms_record_length (choose : Fin 3) (zf_list : Vector UInt8 10) (ms_error : UInt8)
    (ms_time : Vector UInt8 7) :
    (ms_record choose zf_list ms_error ms_time).length = MS_WIDTH := by
  unfold ms_record
  fin_cases choose <;> simp [cells_length, MS_WIDTH]

theorem ax_record_length (version : UInt8) (zf_list : Vector UInt8 10) (msid msv : ℕ)
    (my_time : Vector UInt8 7) (rssi : ℕ) :
    (ax_record version zf_list msid msv my_time rssi).length = AX_WIDTH := by
  have hflags : (zf_list.toList.flatMap (fun f => [f + chr '0', chr ' '])).length = 20 := by
    rw [List.length_flatMap]
    simp
  unfold ax_record
  simp only [two_digits, List.length_append, List.length_cons, List.length_nil,
    dec_digits_length, hflags, AX_WIDTH]

/-! ### One append -/

/-- The state of both logs after the writes `ms` and `ax`. -/
structure LogsInv (d : Dfs) (ms ax : Log UInt8) : Prop where
  works : d.fs.Works
  ms : RingInv MS_WIDTH RECORD_MAX RECORD_MAX (d.fs.content .MS_record) d.record_len ms
  ax : RingInv AX_WIDTH AX5043_MAX (AX5043_MAX + 1) (d.fs.content .AX_record) d.ax5043_len ax

theorem LogsInv.record_len_lt {d : Dfs} {ms ax : Log UInt8} (h : LogsInv d ms ax) :
    d.record_len < RECORD_MAX := by
  rw [h.ms.count]
  exact Nat.mod_lt _ (by decide)

theorem LogsInv.ax5043_len_lt {d : Dfs} {ms ax : Log UInt8} (h : LogsInv d ms ax) :
    d.ax5043_len < AX5043_MAX + 1 := by
  rw [h.ax.count]
  exact Nat.mod_lt _ (by decide)

/-- Below `2^16` the counters are passed on unchanged. -/
theorem succ_mod_u16 {n m : ℕ} (hn : n < m) (hm : m < 0x10000) : (n + 1) % 0x10000 = n + 1 :=
  Nat.mod_eq_of_lt (by omega)

theorem set_record_works {d : Dfs} (h : d.fs.Works) (choose : ℕ) (zf_list : Vector UInt8 10)
    (ms_error : UInt8) (ms_time : Vector UInt8 7) :
    d.set_record choose zf_list ms_error ms_time =
      { d with fs := (d.fs.openFile .MS_record true).2 }.put_record .MS_record (d.record_len * 20)
        (ms_record choose zf_list ms_error ms_time) := by
  unfold set_record
  rw [opening_works h]

theorem set_ax_record_works {d : Dfs} (h : d.fs.Works) (version : UInt8)
    (zf_list : Vector UInt8 10) (msid msv : ℕ) (my_time : Vector UInt8 7) (rssi : ℕ) :
    d.set_ax_record version zf_list msid msv my_time rssi =
      { d with fs := (d.fs.openFile .AX_record true).2 }.put_record .AX_record
        (d.ax5043_len % AX5043_MAX * 60)
        (ax_record version zf_list msid msv my_time rssi) := by
  unfold set_ax_record
  rw [opening_works h]

/-- A meter record goes to the slot of its counter and moves that counter on; the radio log is
untouched. -/
theorem LogsInv.exec_ms {d : Dfs} {ms ax : Log UInt8} (h : LogsInv d ms ax) (choose : Fin 3)
    (zf_list : Vector UInt8 10) (ms_error : UInt8) (ms_time : Vector UInt8 7) :
    LogsInv ((Append.ms choose zf_list ms_error ms_time).exec d)
      (ms ++ [(d.record_len, ms_record choose zf_list ms_error ms_time)]) ax := by
  have hlt := h.record_len_lt
  have hslot : d.record_len % RECORD_MAX = d.record_len := Nat.mod_eq_of_lt hlt
  have hpos : d.record_len * 20 ≤ (d.fs.content .MS_record).length := by
    have := h.ms.no_gap
    rwa [hslot, Nat.mul_comm] at this
  generalize hd₁ : d.set_record choose zf_list ms_error ms_time = d₁
  rw [set_record_works h.works] at hd₁
  have hw₁ : d₁.fs.Works := h.works.of_openOk (by rw [← hd₁]; simp)
  have hlen₁ : d₁.record_len = d.record_len := by rw [← hd₁]; rfl
  have hax₁ : d₁.ax5043_len = d.ax5043_len := by rw [← hd₁]; rfl
  have hc₁ : ∀ q, d₁.fs.content q = if q = .MS_record then
      writeAt (d.fs.content .MS_record) (d.record_len * 20)
        (ms_record choose zf_list ms_error ms_time) else d.fs.content q := by
    intro q
    rw [← hd₁, put_record_content (by simpa using hpos)]
    simp
  have hexec : (Append.ms choose zf_list ms_error ms_time).exec d =
      d₁.set_Record_txt (d.record_len + 1) d.ax5043_len d₁.version := by
    simp only [Append.exec, get_recordled_data, get_ax5045len_data, get_version,
      set_record_works h.works, hd₁, hlen₁, hax₁, succ_mod_u16 hlt (by decide)]
  rw [hexec]
  refine ⟨set_Record_txt_fs_works hw₁ _ _ _, ?_, ?_⟩
  · rw [set_Record_txt_content hw₁, set_Record_txt_record_len hw₁, if_neg (by decide), hc₁,
      if_pos rfl]
    have := h.ms.append (ms_record_length choose zf_list ms_error ms_time)
    rwa [hslot, Nat.mul_comm] at this
  · rw [set_Record_txt_content hw₁, set_Record_txt_ax5043_len hw₁, if_neg (by decide), hc₁,
      if_neg (by decide), Nat.mod_eq_of_lt h.ax5043_len_lt]
    exact h.ax

/-- A radio record goes to the slot of its counter and moves that counter on; the meter log is
untouched. -/
theorem LogsInv.exec_ax {d : Dfs} {ms ax : Log UInt8} (h : LogsInv d ms ax) (version : UInt8)
    (zf_list : Vector UInt8 10) (msid msv : ℕ) (my_time : Vector UInt8 7) (rssi : ℕ) :
    LogsInv ((Append.ax version zf_list msid msv my_time rssi).exec d) ms
      (ax ++ [(d.ax5043_len % AX5043_MAX, ax_record version zf_list msid msv my_time rssi)]) := by
  have hlt := h.ax5043_len_lt
  have hpos : d.ax5043_len % AX5043_MAX * 60 ≤ (d.fs.content .AX_record).length := by
    have := h.ax.no_gap
    rwa [Nat.mul_comm] at this
  generalize hd₁ : d.set_ax_record version zf_list msid msv my_time rssi = d₁
  rw [set_ax_record_works h.works] at hd₁
  have hw₁ : d₁.fs.Works := h.works.of_openOk (by rw [← hd₁]; simp)
  have hlen₁ : d₁.record_len = d.record_len := by rw [← hd₁]; rfl
  have hax₁ : d₁.ax5043_len = d.ax5043_len := by rw [← hd₁]; rfl
  have hc₁ : ∀ q, d₁.fs.content q = if q = .AX_record then
      writeAt (d.fs.content .AX_record) (d.ax5043_len % AX5043_MAX * 60)
        (ax_record version zf_list msid msv my_time rssi) else d.fs.content q := by
    intro q
    rw [← hd₁, put_record_content (by simpa using hpos)]
    simp
  have hexec : (Append.ax version zf_list msid msv my_time rssi).exec d =
      d₁.set_Record_txt d.record_len (d.ax5043_len + 1) d₁.version := by
    simp only [Append.exec, get_recordled_data, get_ax5045len_data, get_version,
      set_ax_record_works h.works, hd₁, hlen₁, hax₁, succ_mod_u16 hlt (by decide)]
  rw [hexec]
  refine ⟨set_Record_txt_fs_works hw₁ _ _ _, ?_, ?_⟩
  · rw [set_Record_txt_content hw₁, set_Record_txt_record_len hw₁, if_neg (by decide), hc₁,
      if_neg (by decide), Nat.mod_eq_of_lt h.record_len_lt]
    exact h.ms
  · rw [set_Record_txt_content hw₁, set_Record_txt_ax5043_len hw₁, if_neg (by decide), hc₁,
      if_pos rfl]
    have := h.ax.append (ax_record_length version zf_list msid msv my_time rssi)
    rwa [Nat.mul_comm] at this

/-! ### Runs -/

/-- A run carries the invariant along, with its own writes added to both logs. -/
theorem LogsInv.appendAll (run : List Append) {d : Dfs} {ms ax : Log UInt8} (h : LogsInv d ms ax) :
    LogsInv (appendAll run d) (ms ++ writes .MS_record run d) (ax ++ writes .AX_record run d) := by
  induction run generalizing d ms ax with
  | nil => simpa [writes, MeterTester.appendAll] using h
  | cons a run ih =>
      cases a with
      | ms choose zf_list ms_error ms_time =>
          have := ih (h.exec_ms choose zf_list ms_error ms_time)
          simpa [writes, MeterTester.appendAll, Append.log, Append.slot, Append.record] using this
      | ax version zf_list msid msv my_time rssi =>
          have := ih (h.exec_ax version zf_list msid msv my_time rssi)
          simpa [writes, MeterTester.appendAll, Append.log, Append.slot, Append.record] using this

/-- Both logs empty, all file operations working. -/
structure EmptyLogs (d : Dfs) : Prop where
  works : d.fs.Works
  ms : d.record_len = 0
  ax : d.ax5043_len = 0

theorem EmptyLogs.inv {d : Dfs} (h : EmptyLogs d) : LogsInv d [] [] where
  works := h.works
  ms := by rw [h.ms]; exact RingInv.init _ _ _ _
  ax := by rw [h.ax]; exact RingInv.init _ _ _ _

/-- How many appends of a run go to log `p`. -/
def appendsTo (p : Path) (run : List Append) : ℕ := run.countP (fun a => a.log = p)

theorem writes_length (p : Path) (run : List Append) (d : Dfs) :
    (writes p run d).length = appendsTo p run := by
  induction run generalizing d with
  | nil => rfl
  | cons a run ih =>
      have ih := ih (a.exec d)
      unfold appendsTo at ih ⊢
      by_cases ha : a.log = p
      · simp [writes, ha, ih]
      · simp [writes, ha, ih]

theorem appendsTo_replicate (p : Path) (n : ℕ) (a : Append) :
    appendsTo p (List.replicate n a) = if a.log = p then n else 0 := by
  simp [appendsTo, List.countP_replicate]

/-- The last `RECORD_MAX` records of the meter log survive any run. -/
theorem ms_kept {d : Dfs} (h : EmptyLogs d) (run : List Append) :
    LastKept MS_WIDTH RECORD_MAX ((appendAll run d).fs.content .MS_record)
      (writes .MS_record run d) := by
  have hinv := (h.inv.appendAll run).ms
  rw [List.nil_append] at hinv
  rw [hinv.lastKept_iff]
  simpa using nodup_ring RECORD_MAX (writes .MS_record run d).length

/-- The last `AX5043_MAX` records of the radio log survive a run unless two of them went to slot
`0`. -/
theorem ax_kept_iff {d : Dfs} (h : EmptyLogs d) (run : List Append) :
    LastKept AX_WIDTH AX5043_MAX ((appendAll run d).fs.content .AX_record)
        (writes .AX_record run d) ↔
      appendsTo .AX_record run ≤ AX5043_MAX ∨
      appendsTo .AX_record run % (AX5043_MAX + 1) = 0 ∨
      appendsTo .AX_record run % (AX5043_MAX + 1) = AX5043_MAX := by
  have hinv := (h.inv.appendAll run).ax
  rw [List.nil_append] at hinv
  rw [hinv.lastKept_iff, nodup_drift_iff (by decide), writes_length]

/-- The ring-log law: after the run, each log still holds its last `50000` records (or all of
them), every one intact and in a slot of its own. -/
def RingLaw (run : List Append) (d : Dfs) : Prop :=
  LastKept MS_WIDTH RECORD_MAX ((appendAll run d).fs.content .MS_record)
      (writes .MS_record run d) ∧
    LastKept AX_WIDTH AX5043_MAX ((appendAll run d).fs.content .AX_record)
      (writes .AX_record run d)

/-- **The ring-log law holds exactly** until the radio log has wrapped, and after that only when
its number of appends is `0` or `50000` modulo `50001`. -/
theorem ringLaw_iff {d : Dfs} (h : EmptyLogs d) (run : List Append) :
    RingLaw run d ↔
      appendsTo .AX_record run ≤ AX5043_MAX ∨
      appendsTo .AX_record run % (AX5043_MAX + 1) = 0 ∨
      appendsTo .AX_record run % (AX5043_MAX + 1) = AX5043_MAX := by
  unfold RingLaw
  rw [ax_kept_iff h]
  exact and_iff_right (ms_kept h run)

/-- The started image over an empty volume has two empty logs. -/
theorem emptyLogs_start : EmptyLogs (Dfs.start Fs.empty) := ⟨fun _ => rfl, rfl, rfl⟩

/-- The counter comes round to `0`: the first slot has been written twice. -/
theorem ringLaw_iff_round :
    RingLaw (List.replicate 50001 (.ax 1 (Vector.replicate 10 0) 7 5 (Vector.replicate 7 0) 60))
      (Dfs.start Fs.empty) := by
  refine (ringLaw_iff emptyLogs_start _).mpr (.inr (.inl ?_))
  rw [appendsTo_replicate]
  decide

/-- The 50001st and the 50002nd radio record both go to slot `0`: the former is lost although it
is the second-newest of the log. -/
theorem not_ringLaw_turn :
    ¬ RingLaw (List.replicate 50002 (.ax 1 (Vector.replicate 10 0) 7 5 (Vector.replicate 7 0) 60))
      (Dfs.start Fs.empty) := by
  rintro ⟨-, hax⟩
  rw [ax_kept_iff emptyLogs_start] at hax
  rw [appendsTo_replicate] at hax
  revert hax
  decide

end MeterTester
