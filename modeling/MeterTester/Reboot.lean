import MeterTester.RingLog

/-! # Counters across reboots

A reboot starts the image again over the same file system: the statics take their initial values
and `my_dfs_init` reads `/Record_len.txt`.  The file carries the two counters and the version byte
of the image that wrote it (`Stamped`).

On a short file `get_Record_len` sets the version in memory to `0`, and every record of that
session stamps the file with `0`; the next boot, with version `1`, takes the file for that of
another version and discards both logs.  A run is therefore durable exactly when its reboots all
come before its first append or delete (`durable_iff`).  From the stamp `1` on, nothing is lost
any more (`durable_of_stamped_one`). -/

namespace MeterTester

open SlotFile Dfs

/-- What happens to the logs between two instants. -/
inductive LogStep where
  | append (a : Append)
  | AX_delete
  | MS_delete
  | reboot

/-- The image starts over the same files. -/
def reboot (d : Dfs) : Dfs := (Dfs.start d.fs).my_dfs_init

def LogStep.exec : LogStep → Dfs → Dfs
  | append a, d => a.exec d
  | AX_delete, d => d.AX_delete
  | MS_delete, d => d.MS_delete
  | reboot, d => MeterTester.reboot d

/-- A reboot has kept both counters and has called `unlink` on nothing. -/
structure Kept (d d' : Dfs) : Prop where
  record_len : d'.record_len = d.record_len
  ax5043_len : d'.ax5043_len = d.ax5043_len
  unlinks : d'.fs.unlinks = d.fs.unlinks

/-- Every reboot of the run keeps the counters and unlinks nothing. -/
def Durable : List LogStep → Dfs → Prop
  | [], _ => True
  | .reboot :: run, d => Kept d (reboot d) ∧ Durable run (reboot d)
  | s :: run, d => Durable run (s.exec d)

/-- All reboots of the run come before its first append or delete. -/
def BootsFirst : List LogStep → Prop
  | [] => True
  | .reboot :: run => BootsFirst run
  | _ :: run => .reboot ∉ run

/-! ### The length file -/

/-- The length file holds the counters and the stamp `v`, which is also the version in memory. -/
structure Stamped (v : UInt8) (d : Dfs) : Prop where
  works : d.fs.Works
  version : d.version = v
  file : d.fs.content .Record_len = record_len_bytes d.record_len d.ax5043_len v
  record_len : d.record_len < 0x10000
  ax5043_len : d.ax5043_len < 0x10000

/-- Nothing has been written to the length file yet. -/
structure Blank (d : Dfs) : Prop where
  works : d.fs.Works
  version : d.version = 0
  file : d.fs.content .Record_len = []
  record_len : d.record_len = 0
  ax5043_len : d.ax5043_len = 0

theorem record_len_bytes_length (r a : ℕ) (v : UInt8) : (record_len_bytes r a v).length = 5 := rfl

/-- Two bytes give back a counter. -/
theorem u16_bytes {n : ℕ} (h : n < 0x10000) :
    (UInt8.ofNat (n / 0x100)).toNat * 0x100 + (UInt8.ofNat (n % 0x100)).toNat = n := by
  simp only [UInt8.toNat_ofNat']
  omega

/-- After `set_Record_txt` the file is stamped with the version it was given. -/
theorem set_Record_txt_stamped {d : Dfs} (h : d.fs.Works)
    (hfile : (d.fs.content .Record_len).length ≤ 5) (r_len a_len : ℕ) :
    Stamped d.version (d.set_Record_txt r_len a_len d.version) where
  works := set_Record_txt_fs_works h _ _ _
  version := set_Record_txt_version h _ _ _
  file := by
    rw [set_Record_txt_content h, if_pos rfl, set_Record_txt_record_len h,
      set_Record_txt_ax5043_len h]
    unfold writeAt
    rw [List.take_zero, List.nil_append, List.drop_eq_nil_of_le
      (by rw [record_len_bytes_length]; omega), List.append_nil]
  record_len := by
    rw [set_Record_txt_record_len h]
    have := Nat.mod_lt r_len (show 0 < RECORD_MAX by decide)
    unfold RECORD_MAX at *
    omega
  ax5043_len := by
    rw [set_Record_txt_ax5043_len h]
    have := Nat.mod_lt a_len (show 0 < AX5043_MAX + 1 by decide)
    unfold AX5043_MAX at *
    omega

/-- Unlinking a record log does not touch the stamp. -/
theorem Stamped.unlink {v : UInt8} {d : Dfs} (h : Stamped v d) {p : Path} (hp : p ≠ .Record_len) :
    Stamped v { d with fs := d.fs.unlink p } where
  works := h.works.of_openOk rfl
  version := h.version
  file := by
    have := h.file
    simpa [hp.symm] using this
  record_len := h.record_len
  ax5043_len := h.ax5043_len

/-! ### The steps -/

/-- Any append or delete leaves the file stamped with the version in memory. -/
theorem exec_stamped {d : Dfs} (h : d.fs.Works) (hfile : (d.fs.content .Record_len).length ≤ 5)
    {s : LogStep} (hs : s ≠ .reboot) : Stamped d.version (s.exec d) := by
  cases s with
  | reboot => exact absurd rfl hs
  | AX_delete => exact (set_Record_txt_stamped h hfile d.record_len 0).unlink (by decide)
  | MS_delete => exact (set_Record_txt_stamped h hfile 0 d.ax5043_len).unlink (by decide)
  | append a =>
      cases a with
      | ms choose zf_list ms_error ms_time =>
          simp only [LogStep.exec, Append.exec, set_record_works h]
          generalize hd₁ : ({ d with fs := (d.fs.openFile .MS_record true).2 }.put_record .MS_record
            (d.record_len * 20) (ms_record choose zf_list ms_error ms_time)) = d₁
          have hv : d₁.version = d.version := by rw [← hd₁]; rfl
          rw [← hv]
          refine set_Record_txt_stamped (h.of_openOk ?_) ?_ _ _
          · rw [← hd₁]; simp
          · rw [← hd₁, put_record_content_ne _ (by decide)]
            simpa using hfile
      | ax version zf_list msid msv my_time rssi =>
          simp only [LogStep.exec, Append.exec, set_ax_record_works h]
          generalize hd₁ : ({ d with fs := (d.fs.openFile .AX_record true).2 }.put_record .AX_record
            (d.ax5043_len % AX5043_MAX * 60)
            (ax_record version zf_list msid msv my_time rssi)) = d₁
          have hv : d₁.version = d.version := by rw [← hd₁]; rfl
          rw [← hv]
          refine set_Record_txt_stamped (h.of_openOk ?_) ?_ _ _
          · rw [← hd₁]; simp
          · rw [← hd₁, put_record_content_ne _ (by decide)]
            simpa using hfile

theorem Blank.exec {d : Dfs} (h : Blank d) {s : LogStep} (hs : s ≠ .reboot) :
    Stamped 0 (s.exec d) := by
  rw [← h.version]
  exact exec_stamped h.works (by rw [h.file]; simp) hs

theorem Stamped.exec {v : UInt8} {d : Dfs} (h : Stamped v d) {s : LogStep} (hs : s ≠ .reboot) :
    Stamped v (s.exec d) := by
  rw [← h.version]
  exact exec_stamped h.works (by rw [h.file, record_len_bytes_length]) hs

/-- The boot reads the length file through a descriptor it has just opened. -/
theorem get_Record_len_works {d : Dfs} (h : d.fs.Works) :
    d.get_Record_len =
      let fs := (d.fs.openFile .Record_len true).2
      let got := (d.fs.content .Record_len).take 5
      let d := { d with fs := fs }.load got
      if got.length < 5 then { d with record_len := 0, ax5043_len := 0, version := 0 }
      else if d.version ≠ getElem d.buffer 4 version_lt then d.lens_of_buffer.discard_records
      else d.lens_of_buffer := by
  unfold get_Record_len
  rw [opening_works h]
  simp only [Fs.read, Fs.content_openFile, List.drop_zero]

/-- A short length file: everything, the version included, becomes `0`. -/
theorem reboot_blank {d : Dfs} (h : d.fs.Works) (hfile : d.fs.content .Record_len = []) :
    Blank (reboot d) ∧ (reboot d).fs.unlinks = d.fs.unlinks := by
  have hr : reboot d = _ := get_Record_len_works (d := Dfs.start d.fs) h
  have hlen : ((d.fs.content .Record_len).take 5).length < 5 := by rw [hfile]; simp
  simp only [Dfs.start, hlen, if_true] at hr
  rw [hr]
  refine ⟨⟨h.of_openOk (by simp), rfl, by simpa using hfile, rfl, rfl⟩, by simp⟩

/-- A stamped length file gives its counters to the transfer buffer. -/
theorem load_record_len_bytes (d : Dfs) {r a : ℕ} (hr : r < 0x10000) (ha : a < 0x10000)
    (v : UInt8) :
    getElem (d.load (record_len_bytes r a v)).buffer 4 version_lt = v ∧
      (d.load (record_len_bytes r a v)).lens_of_buffer.record_len = r ∧
      (d.load (record_len_bytes r a v)).lens_of_buffer.ax5043_len = a := by
  have hb : ∀ i (hi : i < 5), (d.load (record_len_bytes r a v)).buffer[i] =
      (record_len_bytes r a v)[i] := by
    intro i hi
    simp only [load]
    rw [fill_getElem _ _ _ (by omega), dif_pos (by rw [record_len_bytes_length]; exact hi)]
    rfl
  refine ⟨hb 4 (by decide), ?_, ?_⟩
  · simp only [lens_of_buffer, hb 0 (by decide), hb 1 (by decide)]
    exact u16_bytes hr
  · simp only [lens_of_buffer, hb 2 (by decide), hb 3 (by decide)]
    exact u16_bytes ha

/-- The stamp of the image itself: the counters are read back. -/
theorem Stamped.reboot_one {d : Dfs} (h : Stamped 1 d) :
    Kept d (reboot d) ∧ Stamped 1 (reboot d) := by
  have hr : reboot d = _ := get_Record_len_works (d := Dfs.start d.fs) h.works
  have hgot : ((Dfs.start d.fs).fs.content .Record_len).take 5 =
      record_len_bytes d.record_len d.ax5043_len 1 := by
    rw [show (Dfs.start d.fs).fs = d.fs from rfl, h.file]
    rfl
  obtain ⟨hv, hrl, hal⟩ := load_record_len_bytes
    { Dfs.start d.fs with fs := ((Dfs.start d.fs).fs.openFile .Record_len true).2 }
    h.record_len h.ax5043_len 1
  simp only [hgot, record_len_bytes_length, lt_irrefl, if_false, hv] at hr
  rw [if_neg (by simp [Dfs.start])] at hr
  rw [hr]
  refine ⟨⟨hrl, hal, by simp [lens_of_buffer, Dfs.start]⟩,
    ⟨h.works.of_openOk (by simp [lens_of_buffer, Dfs.start]), rfl, ?_, ?_, ?_⟩⟩
  · rw [hrl, hal]
    simpa [lens_of_buffer, Dfs.start] using h.file
  · rw [hrl]; exact h.record_len
  · rw [hal]; exact h.ax5043_len

/-- Any other stamp: both logs are unlinked. -/
theorem Stamped.reboot_other {v : UInt8} {d : Dfs} (h : Stamped v d) (hv1 : v ≠ 1) :
    (reboot d).fs.unlinks = .AX_record :: .MS_record :: d.fs.unlinks := by
  have hr : reboot d = _ := get_Record_len_works (d := Dfs.start d.fs) h.works
  have hgot : ((Dfs.start d.fs).fs.content .Record_len).take 5 =
      record_len_bytes d.record_len d.ax5043_len v := by
    rw [show (Dfs.start d.fs).fs = d.fs from rfl, h.file]
    rfl
  obtain ⟨hv, -, -⟩ := load_record_len_bytes
    { Dfs.start d.fs with fs := ((Dfs.start d.fs).fs.openFile .Record_len true).2 }
    h.record_len h.ax5043_len v
  simp only [hgot, record_len_bytes_length, lt_irrefl, if_false, hv] at hr
  rw [if_pos (by simpa [Dfs.start] using hv1.symm)] at hr
  rw [hr]
  unfold discard_records
  dsimp only
  rw [set_Record_txt_unlinks (h.works.of_openOk (by simp [lens_of_buffer, Dfs.start]))]
  simp [lens_of_buffer, Dfs.start]

/-! ### Runs -/

/-- **With the image's own stamp on the file every run is durable.** -/
theorem durable_of_stamped_one : ∀ (run : List LogStep) {d : Dfs}, Stamped 1 d → Durable run d
  | [], _, _ => trivial
  | .reboot :: run, _, h => ⟨h.reboot_one.1, durable_of_stamped_one run h.reboot_one.2⟩
  | .append _ :: run, _, h => durable_of_stamped_one run (h.exec (by simp))
  | .AX_delete :: run, _, h => durable_of_stamped_one run (h.exec (by simp))
  | .MS_delete :: run, _, h => durable_of_stamped_one run (h.exec (by simp))

/-- With the stamp `0` the next reboot discards the logs. -/
theorem durable_stamped_zero_iff : ∀ (run : List LogStep) {d : Dfs}, Stamped 0 d →
    (Durable run d ↔ .reboot ∉ run)
  | [], _, _ => by simp [Durable]
  | .reboot :: run, d, h => by
      simp only [Durable, List.mem_cons, true_or, not_true_eq_false, iff_false, not_and]
      intro hk
      have := hk.unlinks
      rw [h.reboot_other (by decide)] at this
      exact absurd (congrArg List.length this) (by simp only [List.length_cons]; omega)
  | .append _ :: run, _, h => by
      simpa [Durable] using durable_stamped_zero_iff run (h.exec (by simp))
  | .AX_delete :: run, _, h => by
      simpa [Durable] using durable_stamped_zero_iff run (h.exec (by simp))
  | .MS_delete :: run, _, h => by
      simpa [Durable] using durable_stamped_zero_iff run (h.exec (by simp))

theorem durable_blank_iff : ∀ (run : List LogStep) {d : Dfs}, Blank d →
    (Durable run d ↔ BootsFirst run)
  | [], _, _ => by simp [Durable, BootsFirst]
  | .reboot :: run, d, h => by
      obtain ⟨hb, hu⟩ := reboot_blank h.works h.file
      have hk : Kept d (reboot d) :=
        ⟨by rw [hb.record_len, h.record_len], by rw [hb.ax5043_len, h.ax5043_len], hu⟩
      simp only [Durable, BootsFirst, hk, true_and]
      exact durable_blank_iff run hb
  | .append _ :: run, _, h => by
      simpa [Durable, BootsFirst] using durable_stamped_zero_iff run (h.exec (by simp))
  | .AX_delete :: run, _, h => by
      simpa [Durable, BootsFirst] using durable_stamped_zero_iff run (h.exec (by simp))
  | .MS_delete :: run, _, h => by
      simpa [Durable, BootsFirst] using durable_stamped_zero_iff run (h.exec (by simp))

/-- **Durability over reboots**: a device powered on over an empty file system, all file
operations working, keeps its counters and its logs through every reboot of a run exactly when
no reboot comes after the first append or delete. -/
theorem durable_iff (fs : Fs) (hworks : fs.Works) (hempty : ∀ p, fs.file p = none)
    (run : List LogStep) : Durable run (Dfs.start fs).my_dfs_init ↔ BootsFirst run := by
  refine durable_blank_iff run (reboot_blank (d := Dfs.start fs) hworks ?_).1
  simp [Fs.content, Dfs.start, hempty]

/-- Two more boots, then two records and a delete. -/
theorem durable_iff_records :
    Durable [.reboot, .reboot, .append (.ms 0 (Vector.replicate 10 101) 0 (Vector.replicate 7 0)),
        .append (.ax 1 (Vector.replicate 10 0) 7 5 (Vector.replicate 7 0) 60), .AX_delete]
      (Dfs.start Fs.empty).my_dfs_init := by
  refine (durable_iff Fs.empty (fun _ => rfl) (fun _ => rfl) _).mpr ?_
  simp [BootsFirst]

/-- One meter record, then a reboot: the counter falls back from `1` to `0` and both logs are
unlinked. -/
theorem not_durable_first_record :
    ¬ Durable [.append (.ms 0 (Vector.replicate 10 101) 0 (Vector.replicate 7 0)), .reboot]
      (Dfs.start Fs.empty).my_dfs_init := by
  rintro ⟨⟨hlen, -, -⟩, -⟩
  revert hlen
  decide

end MeterTester
