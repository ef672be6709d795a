import MeterTester.SlotFile

/-! # The file system under `my_dfs.c`

The tester keeps four files in the root of a FAT volume and reaches them with `open`, `read`,
`lseek`, `write`, `close`, `unlink` and `stat`.  A file is the list of its bytes; a descriptor is
used for one transfer only, so the position travels as an argument.

* `open` with `O_CREAT` creates a missing file empty, without it a missing file is an error.
  Whether the `n`-th `open` of the history succeeds at all is `openOk n`, which the theorems that
  assume working file operations set to `true` throughout (`Fs.Works`).
* `lseek` beyond the end of a file opened for writing lengthens it at once, as the driver's
  `f_lseek` does; the new cells show what the medium held there before (`residue`).
* `unlink` removes a file; `unlinks` is the history of its calls, which nothing reads back. -/

namespace MeterTester

open SlotFile

/-- The files of the tester. -/
inductive Path where
  | Record_len
  | MS_record
  | AX_record
  | MS_MSID
deriving DecidableEq, Repr

structure Fs where
  file : Path → Option (List UInt8)
  openOk : ℕ → Bool
  opened : ℕ
  residue : ℕ → UInt8
  unlinks : List Path

namespace Fs

/-- The bytes of a file, none if it does not exist. -/
def content (fs : Fs) (p : Path) : List UInt8 := (fs.file p).getD []

def put (fs : Fs) (p : Path) (bs : List UInt8) : Fs :=
  { fs with file := fun q => if q = p then some bs else fs.file q }

/-- One more call of `open`. -/
def countOpen (fs : Fs) : Fs := { fs with opened := fs.opened + 1 }

/-- `open(p, O_RDWR | O_CREAT)` for `creat`, `open(p, O_WRONLY)` otherwise: whether a descriptor
was returned, and the file system after the call. -/
def openFile (fs : Fs) (p : Path) (creat : Bool) : Bool × Fs :=
  if fs.openOk fs.opened then
    match fs.file p, creat with
    | some _, _ => (true, fs.countOpen)
    | none, true => (true, fs.countOpen.put p [])
    | none, false => (false, fs.countOpen)
  else (false, fs.countOpen)

/-- `lseek(fd, pos, SEEK_SET)` on a descriptor that may write. -/
def lseek (fs : Fs) (p : Path) (pos : ℕ) : Fs :=
  let old := fs.content p
  if old.length < pos then
    fs.put p (old ++ (List.range' old.length (pos - old.length)).map fs.residue)
  else fs

/-- `write(fd, bs, |bs|)` at position `pos`. -/
def write (fs : Fs) (p : Path) (pos : ℕ) (bs : List UInt8) : Fs :=
  fs.put p (writeAt (fs.content p) pos bs)

/-- `read(fd, _, len)` at position `pos`: the bytes delivered, fewer than `len` at the end. -/
def read (fs : Fs) (p : Path) (pos len : ℕ) : List UInt8 := ((fs.content p).drop pos).take len

def unlink (fs : Fs) (p : Path) : Fs :=
  { fs with
    file := fun q => if q = p then none else fs.file q
    unlinks := p :: fs.unlinks }

/-- A freshly formatted volume on which every `open` of an available file works. -/
def empty : Fs where
  file := fun _ => none
  openOk := fun _ => true
  opened := 0
  residue := fun _ => 0
  unlinks := []

/-- A file with bytes is there. -/
theorem file_ne_none {fs : Fs} {p : Path} {n : ℕ} (hn : 0 < n) (h : n ≤ (fs.content p).length) :
    fs.file p ≠ none := by
  intro hf
  rw [content, hf] at h
  exact absurd (lt_of_lt_of_le hn h) (lt_irrefl 0)

/-- All file operations succeed. -/
def Works (fs : Fs) : Prop := ∀ n, fs.openOk n = true

/-! ### What each operation leaves alone -/

variable (fs : Fs) (p q : Path) (pos : ℕ) (bs : List UInt8)

@[simp] theorem file_put : (fs.put p bs).file q = if q = p then some bs else fs.file q := rfl
@[simp] theorem openOk_put : (fs.put p bs).openOk = fs.openOk := rfl
@[simp] theorem unlinks_put : (fs.put p bs).unlinks = fs.unlinks := rfl

@[simp] theorem content_put : (fs.put p bs).content q = if q = p then bs else fs.content q := by
  unfold content
  rw [file_put]
  split_ifs <;> rfl

@[simp] theorem content_write :
    (fs.write p pos bs).content q =
      if q = p then writeAt (fs.content p) pos bs else fs.content q := by
  unfold write
  rw [content_put]

@[simp] theorem opened_write : (fs.write p pos bs).opened = fs.opened := rfl
@[simp] theorem openOk_write : (fs.write p pos bs).openOk = fs.openOk := rfl
@[simp] theorem unlinks_write : (fs.write p pos bs).unlinks = fs.unlinks := rfl
@[simp] theorem openOk_unlink : (fs.unlink p).openOk = fs.openOk := rfl
@[simp] theorem unlinks_unlink : (fs.unlink p).unlinks = p :: fs.unlinks := rfl

@[simp] theorem content_unlink :
    (fs.unlink p).content q = if q = p then [] else fs.content q := by
  unfold content unlink
  dsimp only
  split_ifs <;> rfl

/-- Apart from counting the call, `open` can only create the missing file. -/
theorem openFile_cases (creat : Bool) :
    (fs.openFile p creat).2 = fs.countOpen ∨
      fs.file p = none ∧ (fs.openFile p creat).2 = fs.countOpen.put p [] := by
  unfold openFile
  by_cases hok : fs.openOk fs.opened = true
  · cases hf : fs.file p <;> cases creat <;> simp [hok]
  · simp [hok]

@[simp] theorem openOk_openFile (creat : Bool) : (fs.openFile p creat).2.openOk = fs.openOk := by
  rcases fs.openFile_cases p creat with h | ⟨-, h⟩ <;> rw [h] <;> rfl

/-- Every call of `open` is counted. -/
@[simp] theorem opened_openFile (creat : Bool) :
    (fs.openFile p creat).2.opened = fs.opened + 1 := by
  rcases fs.openFile_cases p creat with h | ⟨-, h⟩ <;> rw [h] <;> rfl

@[simp] theorem unlinks_openFile (creat : Bool) :
    (fs.openFile p creat).2.unlinks = fs.unlinks := by
  rcases fs.openFile_cases p creat with h | ⟨-, h⟩ <;> rw [h] <;> rfl

/-- `open` changes no file's bytes: a file it creates is empty. -/
@[simp] theorem content_openFile (creat : Bool) :
    (fs.openFile p creat).2.content q = fs.content q := by
  rcases fs.openFile_cases p creat with h | ⟨hf, h⟩
  · rw [h]; rfl
  · rw [h, content_put]
    split_ifs with hq
    · subst hq; simp [content, hf]
    · rfl

/-- Whether `open` with `O_CREAT` returns a descriptor. -/
theorem openFile_creat_fst : (fs.openFile p true).1 = fs.openOk fs.opened := by
  unfold openFile
  cases h : fs.openOk fs.opened <;> cases fs.file p <;> rfl

theorem Works.openFile_creat {fs : Fs} (h : fs.Works) (p : Path) :
    (fs.openFile p true).1 = true := by
  unfold openFile
  rw [if_pos (h _)]
  cases fs.file p <;> rfl

/-- `open` with `O_CREAT` leaves the file there. -/
theorem Works.file_openFile {fs : Fs} (h : fs.Works) (p : Path) :
    (fs.openFile p true).2.file p ≠ none := by
  unfold openFile
  rw [if_pos (h _)]
  cases hf : fs.file p with
  | none => simp
  | some bs => simp [countOpen, hf]

theorem Works.openFile_existing {fs : Fs} (h : fs.Works) {p : Path} (hp : fs.file p ≠ none) :
    (fs.openFile p false).1 = true := by
  unfold openFile
  rw [if_pos (h _)]
  cases hf : fs.file p with
  | none => exact absurd hf hp
  | some _ => rfl

theorem Works.of_openOk {fs fs' : Fs} (h : fs.Works) (he : fs'.openOk = fs.openOk) :
    fs'.Works := fun n => by rw [he]; exact h n

@[simp] theorem openOk_lseek : (fs.lseek p pos).openOk = fs.openOk := by
  unfold lseek
  dsimp only
  split_ifs <;> rfl

@[simp] theorem opened_lseek : (fs.lseek p pos).opened = fs.opened := by
  unfold lseek
  dsimp only
  split_ifs <;> rfl

@[simp] theorem unlinks_lseek : (fs.lseek p pos).unlinks = fs.unlinks := by
  unfold lseek
  dsimp only
  split_ifs <;> rfl

theorem content_lseek_ne {p q : Path} (h : q ≠ p) :
    (fs.lseek p pos).content q = fs.content q := by
  unfold lseek
  dsimp only
  split_ifs
  · rw [content_put, if_neg h]
  · rfl

/-- Seeking inside the file or to its end changes nothing. -/
theorem lseek_of_le {fs : Fs} {p : Path} {pos : ℕ} (h : pos ≤ (fs.content p).length) :
    fs.lseek p pos = fs := by
  unfold lseek
  dsimp only
  rw [if_neg (by omega)]

end Fs

end MeterTester
