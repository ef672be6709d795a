import MeterTester.Reboot

/-! # Counters and files

Every function of `my_dfs.c` swallows the failure of its own `open`.  `Covered` says that the slots
below each counter hold complete records; `Inv` says the same of the counters that the next boot
would read from `/Record_len.txt`.

A counter also should not move for a record that is not written (`CounterStays`).

Three steps can leave a counter behind (`Leaves`): an append whose record file cannot be opened
while the length file can, a delete that cannot open the length file, and `unlink_record`, which
does not look at the counter at all.  All other steps keep the invariant and let the counter stay,
and these do not (`inv_exec_iff`); runs without them keep every counter covered, and no record that
is not written is counted (`always_covered`). -/

namespace MeterTester

open SlotFile Dfs

/-! ### The two logs -/

inductive Ring where
  | ms
  | ax
deriving DecidableEq

namespace Ring

def path : Ring → Path
  | ms => .MS_record
  | ax => .AX_record

def width : Ring → ℕ
  | ms => MS_WIDTH
  | ax => AX_WIDTH

/-- The slots of the file. -/
def slots : Ring → ℕ
  | ms => RECORD_MAX
  | ax => AX5043_MAX

/-- The modulus of the counter. -/
def period : Ring → ℕ
  | ms => RECORD_MAX
  | ax => AX5043_MAX + 1

/-- One of two values, the one that belongs to the log. -/
def pick (r_len a_len : ℕ) : Ring → ℕ
  | ms => r_len
  | ax => a_len

def count (k : Ring) (d : Dfs) : ℕ := pick d.record_len d.ax5043_len k

/-- The counters that a boot reads from the length file: none from a short one or one of another
version. -/
def stored (k : Ring) (fs : Fs) : ℕ :=
  match fs.content .Record_len with
  | b0 :: b1 :: b2 :: b3 :: v :: _ =>
      if v = 1 then pick (b0.toNat * 0x100 + b1.toNat) (b2.toNat * 0x100 + b3.toNat) k else 0
  | _ => 0

/-- A complete record of the log. -/
def IsRecord (k : Ring) (bs : List UInt8) : Prop :=
  ∃ a : Append, a.log = k.path ∧ a.record = bs

/-- The first `n` slots of the log hold complete records. -/
def Filed (k : Ring) (n : ℕ) (fs : Fs) : Prop :=
  ∀ s < n, k.IsRecord (chunk k.width s (fs.content k.path))

end Ring

/-- The log an append goes to. -/
def Append.ring : Append → Ring
  | ms .. => .ms
  | ax .. => .ax

/-- No counter is ahead of its file. -/
def Covered (d : Dfs) : Prop := ∀ k : Ring, k.Filed (k.count d) d.fs

/-- Nor is a counter of the length file. -/
def Inv (d : Dfs) : Prop := ∀ k : Ring, k.Filed (k.count d) d.fs ∧ k.Filed (k.stored d.fs) d.fs

/-! ### Steps -/

/-- What happens to the files: the steps of the main program, and the shell's `unlink_record`. -/
inductive Op where
  | log (s : LogStep)
  | unlink_record

def Op.exec : Op → Dfs → Dfs
  | log s, d => s.exec d
  | unlink_record, d => d.unlink_record

/-- The `n`-th `open` from now on fails. -/
def Fails (n : ℕ) (d : Dfs) : Prop := d.fs.openOk (d.fs.opened + n) = false

instance (n : ℕ) (d : Dfs) : Decidable (Fails n d) := inferInstanceAs (Decidable (_ = _))

/-- A nonzero counter of the log, in memory or in the length file. -/
def HasCount (k : Ring) (d : Dfs) : Prop := k.count d ≠ 0 ∨ k.stored d.fs ≠ 0

instance (k : Ring) (d : Dfs) : Decidable (HasCount k d) := inferInstanceAs (Decidable (_ ∨ _))

/-- The step leaves a counter behind: the record is not written, but the counter moves on; or the
log goes, but its counter does not. -/
def Leaves : Op → Dfs → Prop
  | .log (.append _), d => Fails 0 d ∧ ¬ Fails 1 d
  | .log .MS_delete, d => Fails 0 d ∧ HasCount .ms d
  | .log .AX_delete, d => Fails 0 d ∧ HasCount .ax d
  | .unlink_record, d => HasCount .ms d
  | .log .reboot, _ => False

/-- A record that is not written advances no counter. -/
def CounterStays : Op → Dfs → Prop
  | .log (.append a), d => Fails 0 d → ∀ k : Ring, k.count (a.exec d) = k.count d
  | _, _ => True

/-! ### Records in their slots -/

namespace Ring
variable {k : Ring}

theorem IsRecord.length {bs : List UInt8} (h : k.IsRecord bs) : bs.length = k.width := by
  obtain ⟨a, ha, rfl⟩ := h
  cases a with
  | ms choose zf_list ms_error ms_time =>
      cases k with
      | ms => exact ms_record_length _ _ _ _
      | ax => cases ha
  | ax version zf_list msid msv my_time rssi =>
      cases k with
      | ms => cases ha
      | ax => exact ax_record_length _ _ _ _ _ _

theorem isRecord_record (a : Append) : a.ring.IsRecord a.record := ⟨a, by cases a <;> rfl, rfl⟩

theorem path_ne_Record_len (k : Ring) : k.path ≠ .Record_len := by cases k <;> decide

theorem path_ne {k' : Ring} (h : k ≠ k') : k.path ≠ k'.path := by
  revert h
  cases k <;> cases k' <;> decide

theorem one_lt_period (k : Ring) : 1 < k.period := by cases k <;> decide

theorem period_pos (k : Ring) : 0 < k.period := Nat.zero_lt_of_lt k.one_lt_period

theorem period_lt (k : Ring) : k.period < 0x10000 := by cases k <;> decide

theorem width_pos (k : Ring) : 0 < k.width := by cases k <;> decide

theorem not_isRecord_nil (k : Ring) (s : ℕ) : ¬ k.IsRecord (chunk k.width s []) := by
  intro h
  have hlen := h.length
  have := k.width_pos
  simp [chunk] at hlen
  omega

theorem Filed.mono {n m : ℕ} {fs : Fs} (h : k.Filed n fs) (hm : m ≤ n) : k.Filed m fs :=
  fun s hs => h s (by omega)

theorem Filed.congr {n : ℕ} {fs fs' : Fs} (h : k.Filed n fs)
    (he : fs'.content k.path = fs.content k.path) : k.Filed n fs' := by
  intro s hs
  rw [he]
  exact h s hs

theorem filed_zero (k : Ring) (fs : Fs) : k.Filed 0 fs := fun _ hs => absurd hs (Nat.not_lt_zero _)

/-- Filed slots leave no gap. -/
theorem Filed.no_gap {n : ℕ} {fs : Fs} (h : k.Filed n fs) :
    k.width * n ≤ (fs.content k.path).length := by
  cases n with
  | zero => simp
  | succ n =>
      have hlen := (h n (by omega)).length
      have := k.width_pos
      simp only [chunk, List.length_take, List.length_drop] at hlen
      rw [Nat.mul_succ]
      omega

/-- Writing a record into a slot keeps all records. -/
theorem Filed.write {n s : ℕ} {fs fs' : Fs} {bs : List UInt8} (h : k.Filed n fs)
    (hbs : k.IsRecord bs) (hs : k.width * s ≤ (fs.content k.path).length)
    (he : fs'.content k.path = writeAt (fs.content k.path) (k.width * s) bs) : k.Filed n fs' := by
  intro t ht
  rw [he]
  by_cases hts : t = s
  · rw [hts, chunk_writeAt_self hbs.length hs]
    exact hbs
  · rw [chunk_writeAt_ne hbs.length hs hts]
    exact h t ht

end Ring

/-! ### The length file -/

section set_Record_txt
variable {d : Dfs} (r_len a_len : ℕ) (v : UInt8)

/-- Without a descriptor nothing but the count of the calls changes. -/
theorem set_Record_txt_failed (h : Fails 0 d) :
    d.set_Record_txt r_len a_len v =
      { d with fs := (d.fs.openFile .Record_len true).2 } := by
  have hopen : d.fs.openOk d.fs.opened = false := h
  unfold set_Record_txt opening
  simp only [Fs.openFile_creat_fst, hopen, Bool.false_eq_true, if_false, id]

theorem set_Record_txt_opens (h : ¬ Fails 0 d) :
    d.set_Record_txt r_len a_len v =
      { d.load (record_len_bytes (r_len % RECORD_MAX) (a_len % (AX5043_MAX + 1)) v) with
        fs := (d.fs.openFile .Record_len true).2.write .Record_len 0
          (record_len_bytes (r_len % RECORD_MAX) (a_len % (AX5043_MAX + 1)) v)
        record_len := r_len % RECORD_MAX
        ax5043_len := a_len % (AX5043_MAX + 1) } := by
  have hopen : d.fs.openOk d.fs.opened = true := by simpa [Fails] using h
  unfold set_Record_txt opening
  simp only [Fs.openFile_creat_fst, hopen, if_true]
  rfl

theorem set_Record_txt_path (k : Ring) :
    (d.set_Record_txt r_len a_len v).fs.content k.path = d.fs.content k.path := by
  by_cases h : Fails 0 d
  · rw [set_Record_txt_failed _ _ _ h]
    simp
  · rw [set_Record_txt_opens _ _ _ h]
    cases k <;> simp [Ring.path]

theorem set_Record_txt_count (h : ¬ Fails 0 d) (k : Ring) :
    k.count (d.set_Record_txt r_len a_len v) = Ring.pick r_len a_len k % k.period := by
  rw [set_Record_txt_opens _ _ _ h]
  cases k <;> rfl

/-- What a boot reads back: the counters under the image's own stamp. -/
theorem set_Record_txt_stored (h : ¬ Fails 0 d) (k : Ring) :
    k.stored (d.set_Record_txt r_len a_len v).fs =
      if v = 1 then Ring.pick r_len a_len k % k.period else 0 := by
  have hr := Nat.mod_lt r_len (show 0 < RECORD_MAX by decide)
  have ha := Nat.mod_lt a_len (show 0 < AX5043_MAX + 1 by decide)
  have hu16 : RECORD_MAX < 0x10000 ∧ AX5043_MAX + 1 < 0x10000 := by decide
  rw [set_Record_txt_opens _ _ _ h, Ring.stored]
  simp only [Fs.content_write, if_true, writeAt, List.take_zero, List.nil_append, record_len_bytes,
    List.cons_append]
  rw [u16_bytes (by omega), u16_bytes (by omega)]
  cases k <;> rfl

end set_Record_txt

theorem stored_congr {fs fs' : Fs} (h : fs'.content .Record_len = fs.content .Record_len)
    (k : Ring) : k.stored fs' = k.stored fs := by
  unfold Ring.stored
  rw [h]

/-- A call of `open` leaves the counters alone. -/
theorem hasCount_openFile {k : Ring} {d : Dfs} (p : Path) (creat : Bool) :
    HasCount k { d with fs := (d.fs.openFile p creat).2 } ↔ HasCount k d := by
  have hs : k.stored (d.fs.openFile p creat).2 = k.stored d.fs := stored_congr (by simp) k
  rw [HasCount, hs]
  rfl

/-- The invariant depends on the bytes of the files and on the counters. -/
theorem Inv.congr {d d' : Dfs} (h : Inv d) (hc : ∀ q, d'.fs.content q = d.fs.content q)
    (hn : ∀ k : Ring, k.count d' = k.count d) : Inv d' := by
  intro k
  rw [hn, stored_congr (hc _)]
  exact ⟨(h k).1.congr (hc _), (h k).2.congr (hc _)⟩

/-- **The length file written with covered counters.** -/
theorem Inv.set_Record_txt {d : Dfs} (h : Inv d) {r_len a_len : ℕ} (v : UInt8)
    (hfiled : ¬ Fails 0 d → ∀ k : Ring, k.Filed (Ring.pick r_len a_len k % k.period) d.fs) :
    Inv (d.set_Record_txt r_len a_len v) := by
  by_cases hf : Fails 0 d
  · rw [set_Record_txt_failed _ _ _ hf]
    exact h.congr (by simp) fun _ => rfl
  · intro k
    have hpath := set_Record_txt_path (d := d) r_len a_len v k
    rw [set_Record_txt_count _ _ _ hf, set_Record_txt_stored _ _ _ hf]
    refine ⟨(hfiled hf k).congr hpath, ?_⟩
    split_ifs
    · exact (hfiled hf k).congr hpath
    · exact k.filed_zero _

/-! ### Appends -/

/-- The first half of an append: the record goes to its file. -/
def Append.store : Append → Dfs → Dfs
  | ms choose zf_list ms_error ms_time, d => d.set_record choose zf_list ms_error ms_time
  | ax version zf_list msid msv my_time rssi, d =>
      d.set_ax_record version zf_list msid msv my_time rssi

namespace Append
variable (a : Append) {d : Dfs}

/-- The counters that an append passes to `set_Record_txt`. -/
def lens (d : Dfs) : ℕ × ℕ :=
  match a with
  | ms .. => ((d.record_len + 1) % 0x10000, d.ax5043_len)
  | ax .. => (d.record_len, (d.ax5043_len + 1) % 0x10000)

theorem exec_eq : a.exec d =
    (a.store d).set_Record_txt (a.lens (a.store d)).1 (a.lens (a.store d)).2
      (a.store d).version := by
  cases a <;> rfl

theorem lens_self (d : Dfs) :
    Ring.pick (a.lens d).1 (a.lens d).2 a.ring = (a.ring.count d + 1) % 0x10000 := by
  cases a <;> rfl

theorem lens_other (d : Dfs) {k : Ring} (hk : k ≠ a.ring) :
    Ring.pick (a.lens d).1 (a.lens d).2 k = k.count d := by
  cases a <;> cases k <;> first | rfl | exact absurd rfl hk

theorem store_failed (h : Fails 0 d) :
    a.store d = { d with fs := (d.fs.openFile a.ring.path true).2 } := by
  have hopen : d.fs.openOk d.fs.opened = false := h
  cases a <;> simp only [store, set_record, set_ax_record, opening, Fs.openFile_creat_fst, hopen,
    Bool.false_eq_true, if_false, id, ring, Ring.path]

theorem store_opens (h : ¬ Fails 0 d) :
    a.store d = { d with fs := (d.fs.openFile a.ring.path true).2 }.put_record a.ring.path
      (a.slot d * a.ring.width) a.record := by
  have hopen : d.fs.openOk d.fs.opened = true := by simpa [Fails] using h
  cases a <;> simp only [store, set_record, set_ax_record, opening, Fs.openFile_creat_fst, hopen,
    if_true] <;> rfl

/-- Only the file of the log changes. -/
theorem store_content {q : Path} (hq : q ≠ a.ring.path) :
    (a.store d).fs.content q = d.fs.content q := by
  by_cases h : Fails 0 d
  · rw [a.store_failed h]
    simp
  · rw [a.store_opens h, put_record_content_ne _ hq]
    simp

theorem store_count (k : Ring) : k.count (a.store d) = k.count d := by
  by_cases h : Fails 0 d
  · rw [a.store_failed h]
    rfl
  · rw [a.store_opens h]
    rfl

/-- The length file is opened next. -/
theorem fails_store : Fails 0 (a.store d) ↔ Fails 1 d := by
  by_cases h : Fails 0 d
  · rw [a.store_failed h]
    simp [Fails]
  · rw [a.store_opens h]
    simp [Fails, put_record]

/-- The record lands in its slot. -/
theorem store_record (h : ¬ Fails 0 d)
    (hslot : a.ring.width * a.slot d ≤ (d.fs.content a.ring.path).length) :
    (a.store d).fs.content a.ring.path =
      writeAt (d.fs.content a.ring.path) (a.ring.width * a.slot d) a.record := by
  rw [a.store_opens h, Nat.mul_comm, put_record_content (by simpa using hslot)]
  simp

theorem slot_le (d : Dfs) : a.slot d ≤ a.ring.count d := by
  cases a with
  | ms => exact le_rfl
  | ax => exact Nat.mod_le _ _

/-- Below the last value of the counter its slot is the one it names. -/
theorem slot_eq (h : a.ring.count d + 1 < a.ring.period) : a.slot d = a.ring.count d := by
  cases a with
  | ms => rfl
  | ax => exact Nat.mod_eq_of_lt (Nat.lt_of_succ_lt_succ h)

end Append

/-- Whether the record is written or not, no record is lost. -/
theorem Inv.store {d : Dfs} (h : Inv d) (a : Append) : Inv (a.store d) := by
  by_cases hf : Fails 0 d
  · rw [a.store_failed hf]
    exact h.congr (by simp) fun _ => rfl
  · intro k
    rw [a.store_count, stored_congr (a.store_content a.ring.path_ne_Record_len.symm)]
    by_cases hk : k = a.ring
    · subst hk
      have hslot := ((h _).1.mono (a.slot_le d)).no_gap
      have hrecord := a.store_record hf hslot
      have hbs := Ring.isRecord_record a
      exact ⟨(h _).1.write hbs hslot hrecord, (h _).2.write hbs hslot hrecord⟩
    · have hpath := a.store_content (d := d) (Ring.path_ne hk)
      exact ⟨(h k).1.congr hpath, (h k).2.congr hpath⟩

/-- The counter moves on over the record that has been written. -/
theorem Inv.next_filed {d : Dfs} (h : Inv d) {a : Append} (hf : ¬ Fails 0 d) :
    a.ring.Filed ((a.ring.count d + 1) % 0x10000 % a.ring.period) (a.store d).fs := by
  intro s hs
  have hmod := Nat.mod_lt ((a.ring.count d + 1) % 0x10000) a.ring.period_pos
  have hle := (Nat.mod_le ((a.ring.count d + 1) % 0x10000) a.ring.period).trans
    (Nat.mod_le (a.ring.count d + 1) 0x10000)
  have hstored := (h.store a a.ring).1
  rw [a.store_count] at hstored
  rcases Nat.lt_or_ge s (a.ring.count d) with hlt | hge
  · exact hstored s hlt
  · have hsc : s = a.ring.count d := by omega
    have hperiod : a.ring.count d + 1 < a.ring.period := by omega
    have hslot := (h a.ring).1.no_gap
    rw [hsc]
    rw [← a.slot_eq hperiod] at hslot ⊢
    rw [a.store_record hf hslot, chunk_writeAt_self (Ring.isRecord_record a).length hslot]
    exact Ring.isRecord_record a

theorem Inv.append {d : Dfs} (h : Inv d) {a : Append} (hl : ¬ Leaves (.log (.append a)) d) :
    Inv (a.exec d) := by
  rw [a.exec_eq]
  apply (h.store a).set_Record_txt
  intro hopens k
  rw [a.fails_store] at hopens
  by_cases hk : k = a.ring
  · rw [hk, a.lens_self, a.store_count]
    exact h.next_filed fun hf => hl ⟨hf, hopens⟩
  · rw [a.lens_other _ hk]
    exact (h.store a k).1.mono (Nat.mod_le _ _)

/-- Where neither file opens, nothing moves. -/
theorem Append.counterStays {a : Append} {d : Dfs} (hl : ¬ Leaves (.log (.append a)) d) :
    CounterStays (.log (.append a)) d := by
  intro hf k
  have hlen : Fails 1 d := by
    by_contra hopens
    exact hl ⟨hf, hopens⟩
  rw [a.exec_eq, set_Record_txt_failed _ _ _ (a.fails_store.mpr hlen)]
  exact a.store_count k

/-- The length file takes the next number, record or not. -/
theorem Append.not_counterStays {a : Append} {d : Dfs} (hl : Leaves (.log (.append a)) d) :
    ¬ CounterStays (.log (.append a)) d := by
  intro hstays
  have hopens : ¬ Fails 0 (a.store d) := by
    rw [a.fails_store]
    exact hl.2
  have hcount := hstays hl.1 a.ring
  rw [a.exec_eq, set_Record_txt_count _ _ _ hopens, a.lens_self, a.store_count] at hcount
  have hu16 := a.ring.period_lt
  have htwo := a.ring.one_lt_period
  have hlt := Nat.mod_lt ((a.ring.count d + 1) % 0x10000) a.ring.period_pos
  rw [hcount] at hlt
  rw [Nat.mod_eq_of_lt (by omega : a.ring.count d + 1 < 0x10000)] at hcount
  rcases Nat.lt_or_eq_of_le (Nat.succ_le_of_lt hlt) with hnext | hlast
  · rw [Nat.mod_eq_of_lt hnext] at hcount
    omega
  · rw [show a.ring.count d + 1 = a.ring.period from hlast, Nat.mod_self] at hcount
    omega

/-! ### Deletes -/

/-- A log that no counter counts may go. -/
theorem Inv.unlink {d : Dfs} (h : Inv d) {k : Ring} (hk : ¬ HasCount k d) :
    Inv { d with fs := d.fs.unlink k.path } := by
  intro k'
  have hstored : k'.stored (d.fs.unlink k.path) = k'.stored d.fs := by
    apply stored_congr
    rw [Fs.content_unlink, if_neg k.path_ne_Record_len.symm]
  have hcount : k'.count { d with fs := d.fs.unlink k.path } = k'.count d := rfl
  simp only [HasCount, not_or, not_not] at hk
  rw [hstored, hcount]
  by_cases he : k' = k
  · rw [he, hk.1, hk.2]
    exact ⟨k.filed_zero _, k.filed_zero _⟩
  · have hc : (d.fs.unlink k.path).content k'.path = d.fs.content k'.path := by
      rw [Fs.content_unlink, if_neg (Ring.path_ne he)]
    exact ⟨(h k').1.congr hc, (h k').2.congr hc⟩

/-- A delete first clears the counter, if it can. -/
theorem Inv.delete {d : Dfs} (h : Inv d) (k : Ring) (r_len a_len : ℕ)
    (hzero : Ring.pick r_len a_len k = 0)
    (hrest : ∀ k' : Ring, k' ≠ k → Ring.pick r_len a_len k' = k'.count d)
    (hl : ¬ (Fails 0 d ∧ HasCount k d)) :
    Inv { d.set_Record_txt r_len a_len d.version with
      fs := (d.set_Record_txt r_len a_len d.version).fs.unlink k.path } := by
  have hset : Inv (d.set_Record_txt r_len a_len d.version) := by
    apply h.set_Record_txt
    intro _ k'
    by_cases he : k' = k
    · rw [he, hzero, Nat.zero_mod]
      exact k.filed_zero _
    · rw [hrest k' he]
      exact (h k').1.mono (Nat.mod_le _ _)
  apply hset.unlink
  by_cases hf : Fails 0 d
  · intro hc
    rw [set_Record_txt_failed _ _ _ hf] at hc
    exact hl ⟨hf, (hasCount_openFile _ _).mp hc⟩
  · simp [HasCount, set_Record_txt_count _ _ _ hf, set_Record_txt_stored _ _ _ hf, hzero]

/-! ### Reboots -/

/-- The five bytes of a length file in the transfer buffer. -/
theorem load_five (d : Dfs) (b0 b1 b2 b3 v : UInt8) :
    getElem (d.load [b0, b1, b2, b3, v]).buffer 4 version_lt = v ∧
      ∀ k : Ring, k.count (d.load [b0, b1, b2, b3, v]).lens_of_buffer =
        Ring.pick (b0.toNat * 0x100 + b1.toNat) (b2.toNat * 0x100 + b3.toNat) k := by
  have hb : ∀ i (hi : i < 5), (d.load [b0, b1, b2, b3, v]).buffer[i] =
      [b0, b1, b2, b3, v][i] := by
    intro i hi
    simp only [load]
    rw [fill_getElem _ _ _ (by omega), dif_pos (by simpa using hi)]
  refine ⟨hb 4 (by decide), fun k => ?_⟩
  simp only [Ring.count, lens_of_buffer, hb 0 (by decide), hb 1 (by decide), hb 2 (by decide),
    hb 3 (by decide)]
  rfl

/-- The branch for another version: both logs go, and no counter stays. -/
theorem discard_records_zero {d : Dfs} (hv : ∀ k : Ring, k.stored d.fs = 0) (k : Ring) :
    k.count d.discard_records = 0 ∧ k.stored d.discard_records.fs = 0 := by
  refine ⟨by cases k <;> rfl, ?_⟩
  unfold discard_records
  dsimp only
  by_cases hf : Fails 0 { d with fs := (d.fs.unlink .MS_record).unlink .AX_record }
  · rw [set_Record_txt_failed _ _ _ hf, ← hv k]
    apply stored_congr
    simp
  · rw [set_Record_txt_stored _ _ _ hf]
    cases k <;> simp [Ring.pick]

theorem exists_five : ∀ {bs : List UInt8}, 5 ≤ bs.length →
    ∃ b0 b1 b2 b3 v rest, bs = b0 :: b1 :: b2 :: b3 :: v :: rest
  | b0 :: b1 :: b2 :: b3 :: v :: rest, _ => ⟨b0, b1, b2, b3, v, rest, rfl⟩

/-- What `get_Record_len` does with its descriptor. -/
def read_lens (d : Dfs) : Dfs :=
  let got := d.fs.read .Record_len 0 5
  let d := d.load got
  if got.length < 5 then
    { d with record_len := 0, ax5043_len := 0, version := 0 }
  else if d.version ≠ getElem d.buffer 4 version_lt then d.lens_of_buffer.discard_records
  else d.lens_of_buffer

/-- The counters are those of the length file or none at all, and a log goes only together with its
counters. -/
theorem read_lens_cases {d : Dfs} (hv1 : d.version = 1) :
    ((∀ q, (read_lens d).fs.content q = d.fs.content q) ∧
        ∀ k : Ring, k.count (read_lens d) = 0 ∨ k.count (read_lens d) = k.stored d.fs) ∨
      ∀ k : Ring, k.count (read_lens d) = 0 ∧ k.stored (read_lens d).fs = 0 := by
  have hread : d.fs.read .Record_len 0 5 = (d.fs.content .Record_len).take 5 := rfl
  rw [read_lens, hread]
  by_cases hshort : (d.fs.content .Record_len).length < 5
  · left
    simp only [List.length_take, show min 5 (d.fs.content .Record_len).length < 5 by omega, if_true]
    exact ⟨fun _ => rfl, fun k => .inl (by cases k <;> rfl)⟩
  · obtain ⟨b0, b1, b2, b3, v, rest, hfile⟩ := exists_five (Nat.not_lt.mp hshort)
    obtain ⟨hbuf, hlens⟩ := load_five d b0 b1 b2 b3 v
    have hstored : ∀ k : Ring, k.stored d.fs = if v = 1 then
        Ring.pick (b0.toNat * 0x100 + b1.toNat) (b2.toNat * 0x100 + b3.toNat) k else 0 := by
      intro k
      rw [Ring.stored, hfile]
    simp only [hfile, List.take_succ_cons, List.take_zero, List.length_cons, List.length_nil,
      Nat.zero_add, Nat.reduceAdd, lt_irrefl, if_false, load_version, hv1, hbuf]
    by_cases hv : v = 1
    · rw [if_neg (by simp [hv])]
      left
      refine ⟨fun _ => rfl, fun k => .inr ?_⟩
      rw [hlens, hstored, if_pos hv]
    · rw [if_pos (Ne.symm hv)]
      right
      apply discard_records_zero
      intro k
      exact (hstored k).trans (if_neg hv)

/-- The same of a boot. -/
theorem reboot_cases (d : Dfs) :
    ((∀ q, (reboot d).fs.content q = d.fs.content q) ∧
        ∀ k : Ring, k.count (reboot d) = 0 ∨ k.count (reboot d) = k.stored d.fs) ∨
      ∀ k : Ring, k.count (reboot d) = 0 ∧ k.stored (reboot d).fs = 0 := by
  generalize hd₁ : ({ Dfs.start d.fs with
    fs := ((Dfs.start d.fs).fs.openFile .Record_len true).2 } : Dfs) = d₁
  have hc₁ : ∀ q, d₁.fs.content q = d.fs.content q := by
    intro q
    rw [← hd₁]
    simp [Dfs.start]
  have hboot : reboot d = if (d.fs.openFile .Record_len true).1 then read_lens d₁ else d₁ := by
    rw [← hd₁]
    rfl
  rw [hboot]
  split_ifs
  · have hcases := read_lens_cases (d := d₁) (by rw [← hd₁]; rfl)
    simpa only [hc₁, fun k : Ring => stored_congr (hc₁ .Record_len) k] using hcases
  · left
    refine ⟨hc₁, fun k => .inl ?_⟩
    rw [← hd₁]
    cases k <;> rfl

theorem Inv.reboot {d : Dfs} (h : Inv d) : Inv (reboot d) := by
  obtain ⟨hc, hn⟩ | hzero := reboot_cases d
  · intro k
    rw [stored_congr (hc _)]
    refine ⟨?_, (h k).2.congr (hc _)⟩
    obtain h0 | hs := hn k
    · rw [h0]
      exact k.filed_zero _
    · rw [hs]
      exact (h k).2.congr (hc _)
  · intro k
    rw [(hzero k).1, (hzero k).2]
    exact ⟨k.filed_zero _, k.filed_zero _⟩

/-! ### Runs -/

/-- **A step that leaves no counter behind keeps the invariant.** -/
theorem Inv.exec {d : Dfs} (h : Inv d) {o : Op} (hl : ¬ Leaves o d) : Inv (o.exec d) := by
  cases o with
  | unlink_record => exact h.unlink hl
  | log s =>
      cases s with
      | append a => exact h.append hl
      | AX_delete =>
          refine h.delete .ax d.record_len 0 rfl (fun k' hk' => ?_) hl
          cases k' with
          | ms => rfl
          | ax => exact absurd rfl hk'
      | MS_delete =>
          refine h.delete .ms 0 d.ax5043_len rfl (fun k' hk' => ?_) hl
          cases k' with
          | ms => exact absurd rfl hk'
          | ax => rfl
      | reboot => exact h.reboot

/-- A log that goes while a counter still counts it. -/
theorem not_inv_unlink {d : Dfs} {k : Ring} (hk : HasCount k d) :
    ¬ Inv { d with fs := d.fs.unlink k.path } := by
  intro h
  have hgone : (d.fs.unlink k.path).content k.path = [] := by rw [Fs.content_unlink, if_pos rfl]
  have hstored : k.stored (d.fs.unlink k.path) = k.stored d.fs := by
    apply stored_congr
    rw [Fs.content_unlink, if_neg k.path_ne_Record_len.symm]
  obtain ⟨hcount, hlen⟩ := h k
  rw [hstored] at hlen
  have hno := k.not_isRecord_nil 0
  rw [← hgone] at hno
  obtain hc | hs := hk
  · exact hno (hcount 0 (Nat.pos_of_ne_zero hc))
  · exact hno (hlen 0 (Nat.pos_of_ne_zero hs))

/-- **Exactly these steps** break the invariant or count a record that is not written. -/
theorem inv_exec_iff {d : Dfs} (h : Inv d) (o : Op) :
    Inv (o.exec d) ∧ CounterStays o d ↔ ¬ Leaves o d := by
  constructor
  · rintro ⟨hexec, hstays⟩ hl
    cases o with
    | unlink_record => exact not_inv_unlink (k := .ms) hl hexec
    | log s =>
        cases s with
        | append a => exact Append.not_counterStays hl hstays
        | reboot => exact hl
        | AX_delete =>
            have heq := set_Record_txt_failed d.record_len 0 d.version hl.1
            simp only [Op.exec, LogStep.exec, AX_delete, heq] at hexec
            exact not_inv_unlink (k := .ax) ((hasCount_openFile .Record_len true).mpr hl.2) hexec
        | MS_delete =>
            have heq := set_Record_txt_failed 0 d.ax5043_len d.version hl.1
            simp only [Op.exec, LogStep.exec, MS_delete, heq] at hexec
            exact not_inv_unlink (k := .ms) ((hasCount_openFile .Record_len true).mpr hl.2) hexec
  · intro hl
    refine ⟨h.exec hl, ?_⟩
    cases o with
    | unlink_record => trivial
    | log s =>
        cases s with
        | append a => exact Append.counterStays hl
        | reboot => trivial
        | AX_delete => trivial
        | MS_delete => trivial

/-- `P` holds in every state of the run. -/
def Throughout (P : Dfs → Prop) : List Op → Dfs → Prop
  | [], d => P d
  | o :: run, d => P d ∧ Throughout P run (o.exec d)

/-- `P` holds of every step of the run. -/
def EachStep (P : Op → Dfs → Prop) : List Op → Dfs → Prop
  | [], _ => True
  | o :: run, d => P o d ∧ EachStep P run (o.exec d)

theorem throughout_iff : ∀ (run : List Op) {d : Dfs}, Inv d →
    (Throughout Inv run d ∧ EachStep CounterStays run d ↔ EachStep (fun o d => ¬ Leaves o d) run d)
  | [], _, h => ⟨fun _ => trivial, fun _ => ⟨h, trivial⟩⟩
  | o :: run, d, h => by
      constructor
      · rintro ⟨⟨-, hrest⟩, hstays, hsteps⟩
        have hexec : Inv (o.exec d) := by
          cases run with
          | nil => exact hrest
          | cons => exact hrest.1
        have hl := (inv_exec_iff h o).mp ⟨hexec, hstays⟩
        exact ⟨hl, (throughout_iff run hexec).mp ⟨hrest, hsteps⟩⟩
      · rintro ⟨hl, hrest⟩
        obtain ⟨hexec, hstays⟩ := (inv_exec_iff h o).mpr hl
        obtain ⟨hinv, hsteps⟩ := (throughout_iff run hexec).mpr hrest
        exact ⟨⟨h, hinv⟩, hstays, hsteps⟩

theorem Throughout.mono {P Q : Dfs → Prop} (h : ∀ d, P d → Q d) : ∀ {run : List Op} {d : Dfs},
    Throughout P run d → Throughout Q run d
  | [], _, hp => h _ hp
  | _ :: _, _, hp => ⟨h _ hp.1, hp.2.mono h⟩

/-- The first boot over an empty volume. -/
theorem inv_first_boot {fs : Fs} (hempty : ∀ p, fs.file p = none) :
    Inv (Dfs.start fs).my_dfs_init := by
  have hstart : Inv (Dfs.start fs) := by
    intro k
    have hstored : k.stored fs = 0 := by
      unfold Ring.stored Fs.content
      rw [hempty]
      rfl
    have hcount : k.count (Dfs.start fs) = 0 := by cases k <;> rfl
    rw [hcount, show (Dfs.start fs).fs = fs from rfl, hstored]
    exact ⟨k.filed_zero _, k.filed_zero _⟩
  exact hstart.reboot

/-- **Counters never run ahead of the files** in a run that leaves no counter behind, whichever
calls of `open` fail, and a record that is not written advances none. -/
theorem always_covered {fs : Fs} (hempty : ∀ p, fs.file p = none) {run : List Op}
    (h : EachStep (fun o d => ¬ Leaves o d) run (Dfs.start fs).my_dfs_init) :
    Throughout Covered run (Dfs.start fs).my_dfs_init ∧
      EachStep CounterStays run (Dfs.start fs).my_dfs_init := by
  obtain ⟨hinv, hstays⟩ := (throughout_iff run (inv_first_boot hempty)).mpr h
  exact ⟨hinv.mono fun _ hi k => (hi k).1, hstays⟩

/-- A volume on which these calls of `open` fail. -/
def failing (ns : List ℕ) : Fs := { Fs.empty with openOk := fun m => m ∉ ns }

/-- A meter record of blank digits. -/
def blank_record : Append := .ms 0 (Vector.replicate 10 101) 0 (Vector.replicate 7 0)

/-- Behind the first record neither file can be opened for the second, and the length file not for the
third. -/
theorem always_covered_failing :
    Throughout Covered [.log (.append blank_record), .log (.append blank_record),
        .log (.append blank_record), .log .MS_delete, .unlink_record]
      (Dfs.start (failing [3, 4, 6])).my_dfs_init ∧
    EachStep CounterStays [.log (.append blank_record), .log (.append blank_record),
        .log (.append blank_record), .log .MS_delete, .unlink_record]
      (Dfs.start (failing [3, 4, 6])).my_dfs_init := by
  apply always_covered (fun _ => rfl)
  refine ⟨fun h => absurd h.1 ?_, fun h => h.2 ?_, fun h => absurd h.1 ?_, fun h => absurd h.1 ?_, ?_,
    trivial⟩
  · decide
  · decide
  · decide
  · decide
  · unfold Leaves
    decide

/-- The record file cannot be opened, and the counter counts a record that is not there, or an older
one; or `unlink_record` removes the record that the counter counts. -/
theorem not_covered_failing :
    ¬ Throughout Covered [.log (.append blank_record)] (Dfs.start (failing [1])).my_dfs_init ∧
      ¬ EachStep CounterStays [.log (.append blank_record), .log (.append blank_record)]
        (Dfs.start (failing [2, 3])).my_dfs_init ∧
      ¬ Throughout Covered [.log (.append blank_record), .unlink_record]
        (Dfs.start Fs.empty).my_dfs_init := by
  refine ⟨?_, ?_, ?_⟩
  · rintro ⟨-, h⟩
    have := (h .ms 0 (by decide)).length
    revert this
    decide
  · rintro ⟨-, h, -⟩
    have := h (by decide) .ms
    revert this
    decide
  · rintro ⟨-, -, h⟩
    have := (h .ms 0 (by decide)).length
    revert this
    decide

end MeterTester
