import MeterTester.FileSystem

/-! # The record files: `my_dfs.c`

The two record logs, their length file and the serial-number file.  The state `Dfs` holds the
file system and the statics of the C file: the shared transfer buffer, the two counters
(`uint16_t`, kept as naturals; callers truncate) and the version byte.

Every function opens its file first and does nothing else when that fails (`opening`).  The record
formats are written as the concatenation of their fields in the order in which the running index
of the C code fills the buffer. -/

namespace MeterTester

open SlotFile

def RECORD_MAX : ℕ := 50000
def AX5043_MAX : ℕ := 50000

/-- The code of an ASCII character. -/
def chr (c : Char) : UInt8 := UInt8.ofNat c.toNat

structure Dfs where
  fs : Fs
  buffer : Vector UInt8 80
  record_len : ℕ
  ax5043_len : ℕ
  version : UInt8

namespace Dfs

/-- The statics of a started image over a given file system. -/
def start (fs : Fs) : Dfs where
  fs := fs
  buffer := Vector.replicate 80 0
  record_len := 0
  ax5043_len := 0
  version := 1

/-- The buffer with `bs` stored from index `0` on. -/
def fill (buf : Vector UInt8 80) (bs : List UInt8) : Vector UInt8 80 :=
  ⟨(bs.take 80 ++ buf.toList.drop bs.length).toArray, by simp; omega⟩

theorem fill_getElem (buf : Vector UInt8 80) (bs : List UInt8) (i : ℕ) (hi : i < 80) :
    (fill buf bs)[i] = if h : i < bs.length then bs[i] else buf[i] := by
  simp only [fill, Vector.getElem_mk, List.getElem_toArray]
  split_ifs with h
  · rw [List.getElem_append_left (by simp; omega), List.getElem_take]
  · rw [List.getElem_append_right (by simp; omega), List.getElem_drop, Vector.getElem_toList]
    congr 1
    simp only [List.length_take]
    omega

/-- Fill the transfer buffer. -/
def load (d : Dfs) (bs : List UInt8) : Dfs := { d with buffer := fill d.buffer bs }

section load
variable (d : Dfs) (bs : List UInt8)

@[simp] theorem load_fs : (d.load bs).fs = d.fs := rfl
@[simp] theorem load_record_len : (d.load bs).record_len = d.record_len := rfl
@[simp] theorem load_ax5043_len : (d.load bs).ax5043_len = d.ax5043_len := rfl
@[simp] theorem load_version : (d.load bs).version = d.version := rfl

end load

/-- `fd = open(p, ..)`, then `body` if a descriptor was returned and `fail` if not. -/
def opening {β : Type} (p : Path) (creat : Bool) (d : Dfs) (body fail : Dfs → β) : β :=
  let d' := { d with fs := (d.fs.openFile p creat).2 }
  if (d.fs.openFile p creat).1 then body d' else fail d'

def get_recordled_data (d : Dfs) : ℕ := d.record_len
def get_ax5045len_data (d : Dfs) : ℕ := d.ax5043_len
def get_version (d : Dfs) : UInt8 := d.version

/-! ### The length file -/

/-- The five bytes of `/Record_len.txt`. -/
def record_len_bytes (r_len a_len : ℕ) (v : UInt8) : List UInt8 :=
  [UInt8.ofNat (r_len / 0x100), UInt8.ofNat (r_len % 0x100),
    UInt8.ofNat (a_len / 0x100), UInt8.ofNat (a_len % 0x100), v]

def set_Record_txt (r_len a_len : ℕ) (v : UInt8) (d : Dfs) : Dfs :=
  let r_len := r_len % RECORD_MAX
  let a_len := a_len % (AX5043_MAX + 1)
  d.opening .Record_len true (fun d =>
    { d.load (record_len_bytes r_len a_len v) with
      fs := d.fs.write .Record_len 0 (record_len_bytes r_len a_len v)
      record_len := r_len
      ax5043_len := a_len }) id

def AX_delete (d : Dfs) : Dfs :=
  let d := d.set_Record_txt d.record_len 0 d.version
  { d with fs := d.fs.unlink .AX_record }

def MS_delete (d : Dfs) : Dfs :=
  let d := d.set_Record_txt 0 d.ax5043_len d.version
  { d with fs := d.fs.unlink .MS_record }

/-- The counters as the first four bytes of the buffer give them. -/
def lens_of_buffer (d : Dfs) : Dfs :=
  { d with
    record_len := d.buffer[0].toNat * 0x100 + d.buffer[1].toNat
    ax5043_len := d.buffer[2].toNat * 0x100 + d.buffer[3].toNat }

theorem version_lt : 4 < 80 := by decide

/-- The branch for a length file of another version. -/
def discard_records (d : Dfs) : Dfs :=
  let d := { d with fs := (d.fs.unlink .MS_record).unlink .AX_record }
  { d.set_Record_txt 0 0 d.version with record_len := 0, ax5043_len := 0 }

def get_Record_len (d : Dfs) : Dfs :=
  d.opening .Record_len true (fun d =>
    let got := d.fs.read .Record_len 0 5
    let d := d.load got
    if got.length < 5 then
      { d with record_len := 0, ax5043_len := 0, version := 0 }
    else if d.version ≠ d.buffer[4] then d.lens_of_buffer.discard_records
    else d.lens_of_buffer) id

def unlink_record (d : Dfs) : Dfs := { d with fs := d.fs.unlink .MS_record }

def my_dfs_init (d : Dfs) : Dfs := d.get_Record_len

/-! ### The serial-number file -/

theorem cell_lt (i : Fin 10) : i.1 < 10 := i.2

/-- Cells `1 .. len` of a digit list, whose cell `0` is a length for the display. -/
def cells (zf_list : Vector UInt8 10) (len : ℕ) : List UInt8 := (zf_list.toList.drop 1).take len

/-- The twenty digits written when the file is short. -/
def default_MSID : List UInt8 := [1, 2, 3, 4, 5, 6, 1, 2, 3, 4, 5, 6, 7, 8, 1, 2, 3, 4, 5, 6]

/-- The digits as the buffer gives them, anything above nine read as one. -/
def MSID_of_buffer (d : Dfs) : Vector UInt8 20 :=
  Vector.ofFn fun i => let b := d.buffer[i.1]; if b < 10 then b else 1

def get_MSID (data : Vector UInt8 20) (d : Dfs) : Vector UInt8 20 × Dfs :=
  d.opening .MS_MSID true (fun d =>
    let got := d.fs.read .MS_MSID 0 80
    let d := d.load got
    let d :=
      if got.length < 20 then
        (d.load default_MSID).opening .MS_MSID false
          (fun d => { d with fs := d.fs.write .MS_MSID 0 default_MSID }) id
      else d
    (d.MSID_of_buffer, d)) (fun d => (data, d))

/-- The twenty bytes of `/MS_MSID.txt`: six, eight and six digits. -/
def MSID_bytes (msid1 msid2 msid3 : Vector UInt8 10) : List UInt8 :=
  (cells msid1 6 ++ cells msid2 8 ++ cells msid3 6).map (· - 100)

def set_MSID (msid1 msid2 msid3 : Vector UInt8 10) (d : Dfs) : Dfs :=
  d.opening .MS_MSID false (fun d =>
    { d.load (MSID_bytes msid1 msid2 msid3) with
      fs := d.fs.write .MS_MSID 0 (MSID_bytes msid1 msid2 msid3) }) id

/-! ### Records -/

def ms_number_hex (data : UInt8) : UInt8 :=
  if data < 10 then data + chr '0' else data - 10 + chr 'A'

/-- A meter record: digits, error code, time, variant letter. -/
def ms_record (choose : ℕ) (zf_list : Vector UInt8 10) (ms_error : UInt8)
    (ms_time : Vector UInt8 7) : List UInt8 :=
  (cells zf_list (if choose = 1 then 8 else 6)).map (· - 100 + chr '0') ++
  [chr ' ', ms_number_hex ms_error, chr ' ',
    ms_number_hex (ms_time[2] / 10), ms_number_hex (ms_time[2] % 10), chr ',',
    ms_number_hex (ms_time[1] / 10), ms_number_hex (ms_time[1] % 10), chr ',',
    ms_number_hex (ms_time[0] / 10), ms_number_hex (ms_time[0] % 10)] ++
  (if choose ≠ 1 then
    chr ' ' :: (if choose = 0 then [chr 'A'] else if choose = 2 then [chr 'B'] else [])
  else []) ++
  [0x0d]

/-- Put `record` at byte `pos` of `p`: `lseek`, `write`. -/
def put_record (p : Path) (pos : ℕ) (record : List UInt8) (d : Dfs) : Dfs :=
  { d.load record with fs := (d.fs.lseek p pos).write p pos record }

def set_record (choose : ℕ) (zf_list : Vector UInt8 10) (ms_error : UInt8)
    (ms_time : Vector UInt8 7) (d : Dfs) : Dfs :=
  d.opening .MS_record true (fun d =>
    d.put_record .MS_record (d.record_len * 20) (ms_record choose zf_list ms_error ms_time)) id

/-- The `len` lowest decimal digits of `n`, the highest first; the C loop fills them in from the
lowest. -/
def dec_digits : ℕ → ℕ → List UInt8
  | 0, _ => []
  | len + 1, n => dec_digits len (n / 10) ++ [UInt8.ofNat (n % 10) + chr '0']

/-- Two decimal digits of a byte. -/
def two_digits (b : UInt8) : List UInt8 := [b / 10 % 10 + chr '0', b % 10 + chr '0']

/-- A radio record: version, serial, reading, ten flags, date, time, signal strength. -/
def ax_record (version : UInt8) (zf_list : Vector UInt8 10) (msid msv : ℕ)
    (my_time : Vector UInt8 7) (rssi : ℕ) : List UInt8 :=
  [version + chr '0', chr ' '] ++
  dec_digits 8 msid ++ [chr ' '] ++
  dec_digits 6 msv ++ [chr ' '] ++
  zf_list.toList.flatMap (fun f => [f + chr '0', chr ' ']) ++
  two_digits my_time[6] ++ [chr '-'] ++ two_digits my_time[5] ++ [chr '-'] ++
  two_digits my_time[4] ++ [chr ' '] ++
  two_digits my_time[2] ++ [chr ':'] ++ two_digits my_time[1] ++ [chr ':'] ++
  two_digits my_time[0] ++ [chr ' '] ++
  [UInt8.ofNat (rssi / 100 % 10) + chr '0', UInt8.ofNat (rssi / 10 % 10) + chr '0',
    UInt8.ofNat (rssi % 10) + chr '0', 0x0d]

def set_ax_record (version : UInt8) (zf_list : Vector UInt8 10) (msid msv : ℕ)
    (my_time : Vector UInt8 7) (rssi : ℕ) (d : Dfs) : Dfs :=
  d.opening .AX_record true (fun d =>
    let ax_len := d.ax5043_len % AX5043_MAX
    d.put_record .AX_record (ax_len * 60) (ax_record version zf_list msid msv my_time rssi)) id

/-- Read slot `ax_addr` into the buffer; the descriptor may write, so a seek beyond the end
lengthens the file. -/
def get_ax_Record (ax_addr : ℕ) (d : Dfs) : Bool × Dfs :=
  d.opening .AX_record true (fun d =>
    let d := { d with fs := d.fs.lseek .AX_record (ax_addr * 60) }
    let got := d.fs.read .AX_record (ax_addr * 60) 60
    (decide (60 ≤ got.length), d.load got)) (fun d => (false, d))

def get_ax_data (addr : Fin 80) (d : Dfs) : UInt8 := d.buffer[addr]

/-- Number of records by file size; without the file the C function returns no value. -/
def stat_sample (d : Dfs) : Option ℕ := (d.fs.file .AX_record).map fun bs => bs.length / 60 % 0x10000

/-! ### Effects when the file operations work -/

section works

variable {d : Dfs}

theorem opening_works {β : Type} (h : d.fs.Works) (p : Path) (body fail : Dfs → β) :
    d.opening p true body fail = body { d with fs := (d.fs.openFile p true).2 } := by
  unfold opening
  rw [h.openFile_creat p]
  rfl

theorem opening_existing {β : Type} (h : d.fs.Works) {p : Path} (hp : d.fs.file p ≠ none)
    (body fail : Dfs → β) :
    d.opening p false body fail = body { d with fs := (d.fs.openFile p false).2 } := by
  unfold opening
  rw [h.openFile_existing hp]
  rfl

variable (h : d.fs.Works) (r_len a_len : ℕ) (v : UInt8)
include h

theorem set_Record_txt_works :
    d.set_Record_txt r_len a_len v =
      { d.load (record_len_bytes (r_len % RECORD_MAX) (a_len % (AX5043_MAX + 1)) v) with
        fs := (d.fs.openFile .Record_len true).2.write .Record_len 0
          (record_len_bytes (r_len % RECORD_MAX) (a_len % (AX5043_MAX + 1)) v)
        record_len := r_len % RECORD_MAX
        ax5043_len := a_len % (AX5043_MAX + 1) } := by
  unfold set_Record_txt
  rw [opening_works h]
  rfl

theorem set_Record_txt_record_len :
    (d.set_Record_txt r_len a_len v).record_len = r_len % RECORD_MAX := by
  rw [set_Record_txt_works h]

theorem set_Record_txt_ax5043_len :
    (d.set_Record_txt r_len a_len v).ax5043_len = a_len % (AX5043_MAX + 1) := by
  rw [set_Record_txt_works h]

theorem set_Record_txt_version : (d.set_Record_txt r_len a_len v).version = d.version := by
  rw [set_Record_txt_works h, load_version]

theorem set_Record_txt_unlinks : (d.set_Record_txt r_len a_len v).fs.unlinks = d.fs.unlinks := by
  rw [set_Record_txt_works h]
  simp

theorem set_Record_txt_content (q : Path) :
    (d.set_Record_txt r_len a_len v).fs.content q =
      if q = .Record_len then
        writeAt (d.fs.content .Record_len) 0
          (record_len_bytes (r_len % RECORD_MAX) (a_len % (AX5043_MAX + 1)) v)
      else d.fs.content q := by
  rw [set_Record_txt_works h]
  simp

theorem set_Record_txt_fs_works : (d.set_Record_txt r_len a_len v).fs.Works := by
  apply h.of_openOk
  rw [set_Record_txt_works h]
  simp

omit h in
/-- Writing a record at a position inside the file or at its end. -/
theorem put_record_content {p : Path} {pos : ℕ} (hpos : pos ≤ (d.fs.content p).length)
    (record : List UInt8) (q : Path) :
    (d.put_record p pos record).fs.content q =
      if q = p then writeAt (d.fs.content p) pos record else d.fs.content q := by
  unfold put_record
  rw [Fs.lseek_of_le hpos, Fs.content_write]

omit h in
@[simp] theorem put_record_openOk (p : Path) (pos : ℕ) (record : List UInt8) :
    (d.put_record p pos record).fs.openOk = d.fs.openOk := by simp [put_record]

end works

/-! ### What no operation changes

Whether the calls of `open` work does not depend on the program, and no operation but those of
the serial-number file touches that file. -/

section files

theorem opening_openOk {p : Path} {creat : Bool} {d : Dfs} {body fail : Dfs → Dfs}
    (hbody : ∀ d, (body d).fs.openOk = d.fs.openOk) (hfail : ∀ d, (fail d).fs.openOk = d.fs.openOk) :
    (d.opening p creat body fail).fs.openOk = d.fs.openOk := by
  unfold opening
  dsimp only
  split_ifs
  · rw [hbody]
    simp
  · rw [hfail]
    simp

theorem opening_content {p q : Path} {creat : Bool} {d : Dfs} {body fail : Dfs → Dfs}
    (hbody : ∀ d, (body d).fs.content q = d.fs.content q)
    (hfail : ∀ d, (fail d).fs.content q = d.fs.content q) :
    (d.opening p creat body fail).fs.content q = d.fs.content q := by
  unfold opening
  dsimp only
  split_ifs
  · rw [hbody]
    simp
  · rw [hfail]
    simp

theorem put_record_content_ne (d : Dfs) {p q : Path} (hq : q ≠ p) (pos : ℕ)
    (record : List UInt8) : (d.put_record p pos record).fs.content q = d.fs.content q := by
  unfold put_record
  rw [Fs.content_write, if_neg hq, Fs.content_lseek_ne _ _ hq]

variable (d : Dfs)

@[simp] theorem set_Record_txt_openOk (r_len a_len : ℕ) (v : UInt8) :
    (d.set_Record_txt r_len a_len v).fs.openOk = d.fs.openOk :=
  opening_openOk (fun _ => by simp) fun _ => rfl

@[simp] theorem set_record_openOk (choose : ℕ) (zf_list : Vector UInt8 10) (ms_error : UInt8)
    (ms_time : Vector UInt8 7) :
    (d.set_record choose zf_list ms_error ms_time).fs.openOk = d.fs.openOk :=
  opening_openOk (fun _ => by simp) fun _ => rfl

@[simp] theorem set_ax_record_openOk (version : UInt8) (zf_list : Vector UInt8 10) (msid msv : ℕ)
    (my_time : Vector UInt8 7) (rssi : ℕ) :
    (d.set_ax_record version zf_list msid msv my_time rssi).fs.openOk = d.fs.openOk :=
  opening_openOk (fun _ => by simp) fun _ => rfl

@[simp] theorem set_MSID_openOk (msid1 msid2 msid3 : Vector UInt8 10) :
    (d.set_MSID msid1 msid2 msid3).fs.openOk = d.fs.openOk :=
  opening_openOk (fun _ => by simp) fun _ => rfl

@[simp] theorem get_MSID_openOk (data : Vector UInt8 20) :
    (d.get_MSID data).2.fs.openOk = d.fs.openOk := by
  unfold get_MSID opening
  dsimp only
  split_ifs <;> simp

@[simp] theorem get_ax_Record_openOk (ax_addr : ℕ) :
    (d.get_ax_Record ax_addr).2.fs.openOk = d.fs.openOk := by
  unfold get_ax_Record opening
  dsimp only
  split_ifs <;> simp

@[simp] theorem my_dfs_init_openOk : d.my_dfs_init.fs.openOk = d.fs.openOk := by
  refine opening_openOk (fun d => ?_) fun _ => rfl
  dsimp only
  split_ifs
  · rfl
  · simp [discard_records, lens_of_buffer]
  · rfl

@[simp] theorem set_Record_txt_MS_MSID (r_len a_len : ℕ) (v : UInt8) :
    (d.set_Record_txt r_len a_len v).fs.content .MS_MSID = d.fs.content .MS_MSID :=
  opening_content (fun _ => by simp) fun _ => rfl

@[simp] theorem set_record_MS_MSID (choose : ℕ) (zf_list : Vector UInt8 10) (ms_error : UInt8)
    (ms_time : Vector UInt8 7) :
    (d.set_record choose zf_list ms_error ms_time).fs.content .MS_MSID =
      d.fs.content .MS_MSID :=
  opening_content (fun d => d.put_record_content_ne (by decide) _ _) fun _ => rfl

@[simp] theorem set_ax_record_MS_MSID (version : UInt8) (zf_list : Vector UInt8 10) (msid msv : ℕ)
    (my_time : Vector UInt8 7) (rssi : ℕ) :
    (d.set_ax_record version zf_list msid msv my_time rssi).fs.content .MS_MSID =
      d.fs.content .MS_MSID :=
  opening_content (fun d => d.put_record_content_ne (by decide) _ _) fun _ => rfl

@[simp] theorem get_ax_Record_MS_MSID (ax_addr : ℕ) :
    (d.get_ax_Record ax_addr).2.fs.content .MS_MSID = d.fs.content .MS_MSID := by
  unfold get_ax_Record opening
  dsimp only
  split_ifs
  · rw [load_fs, Fs.content_lseek_ne _ _ (by decide)]
    simp
  · simp

@[simp] theorem my_dfs_init_MS_MSID :
    d.my_dfs_init.fs.content .MS_MSID = d.fs.content .MS_MSID := by
  refine opening_content (fun d => ?_) fun _ => rfl
  dsimp only
  split_ifs
  · rfl
  · simp [discard_records, lens_of_buffer]
  · rfl

end files

end Dfs

end MeterTester
