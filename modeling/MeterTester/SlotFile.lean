import Mathlib.Data.List.Nodup
import Mathlib.Data.List.Range
import Mathlib.Data.List.Basic
import Mathlib.Data.Nat.ModEq
import Mathlib.Tactic

/-! # Files of fixed-width slots

A file is a list of cells; `writeAt` overwrites (and, at the end, lengthens) it from a
position on, `chunk w s` reads slot `s` of width `w`.  A *log* is the list of writes
`(slot, record)` performed so far, oldest first.

`LastKept` says that the last `k` writes of a log are all still on the file, each in a slot of
its own.  For a file obtained by performing the writes (`Holds`) this comes down to the slots of
those writes being pairwise distinct (`lastKept_iff`), which for the two slot sequences
`i % N` and `i % (N + 1) % N` is settled by `nodup_ring` and `nodup_drift_iff`. -/

namespace SlotFile

variable {α : Type}

/-- Overwrite `file` from position `pos` on, lengthening it where `bs` sticks out. -/
def writeAt (file : List α) (pos : ℕ) (bs : List α) : List α :=
  file.take pos ++ bs ++ file.drop (pos + bs.length)

/-- Slot `s` of width `w`. -/
def chunk (w s : ℕ) (file : List α) : List α := (file.drop (w * s)).take w

theorem writeAt_length {file : List α} {pos : ℕ} {bs : List α} (h : pos ≤ file.length) :
    (writeAt file pos bs).length = max file.length (pos + bs.length) := by
  simp only [writeAt, List.length_append, List.length_take, List.length_drop]
  omega

/-- Cells outside the written interval keep their value. -/
theorem writeAt_getElem?_of_lt {file : List α} {pos i : ℕ} {bs : List α}
    (h : pos ≤ file.length) (hi : i < pos ∨ pos + bs.length ≤ i) :
    (writeAt file pos bs)[i]? = file[i]? := by
  unfold writeAt
  rcases hi with hi | hi
  · rw [List.append_assoc, List.getElem?_append_left (by simp; omega), List.getElem?_take_of_lt hi]
  · rw [List.getElem?_append_right (by simp; omega), List.getElem?_drop]
    congr 1
    simp only [List.length_append, List.length_take]
    omega

theorem writeAt_getElem?_written {file : List α} {pos i : ℕ} {bs : List α}
    (h : pos ≤ file.length) (hi : i < bs.length) :
    (writeAt file pos bs)[pos + i]? = bs[i]? := by
  unfold writeAt
  rw [List.append_assoc, List.getElem?_append_right (by simp),
    List.getElem?_append_left (by simp; omega)]
  congr 1
  simp only [List.length_take]
  omega

theorem chunk_getElem? (w s i : ℕ) (file : List α) :
    (chunk w s file)[i]? = if i < w then file[w * s + i]? else none := by
  unfold chunk
  rw [List.getElem?_take]
  split_ifs with h
  · rw [List.getElem?_drop]
  · rfl

theorem chunk_writeAt_self {w s : ℕ} {file bs : List α} (hw : bs.length = w)
    (h : w * s ≤ file.length) : chunk w s (writeAt file (w * s) bs) = bs := by
  apply List.ext_getElem?
  intro i
  rw [chunk_getElem?]
  split_ifs with hi
  · exact writeAt_getElem?_written h (by omega)
  · rw [List.getElem?_eq_none (by omega)]

theorem chunk_writeAt_ne {w s t : ℕ} {file bs : List α} (hw : bs.length = w)
    (h : w * s ≤ file.length) (hst : t ≠ s) :
    chunk w t (writeAt file (w * s) bs) = chunk w t file := by
  apply List.ext_getElem?
  intro i
  rw [chunk_getElem?, chunk_getElem?]
  split_ifs with hi
  · apply writeAt_getElem?_of_lt h
    rcases Nat.lt_or_gt_of_ne hst with hlt | hgt
    · left
      have := Nat.mul_le_mul_left w (Nat.succ_le_of_lt hlt)
      rw [Nat.mul_succ] at this
      omega
    · right
      have := Nat.mul_le_mul_left w (Nat.succ_le_of_lt hgt)
      rw [Nat.mul_succ] at this
      omega
  · rfl

/-! ### Logs of slot writes -/

/-- A log of writes `(slot, record)`, oldest first. -/
abbrev Log (α : Type) := List (ℕ × List α)

/-- Every slot holds the record of the last write to it, and the file is long enough for all
slots written so far. -/
structure Holds (w : ℕ) (file : List α) (ws : Log α) : Prop where
  last : ∀ pre s r post, ws = pre ++ (s, r) :: post → s ∉ post.map Prod.fst →
    chunk w s file = r
  long : ∀ p ∈ ws, w * (p.1 + 1) ≤ file.length

theorem Holds.nil (w : ℕ) (file : List α) : Holds w file [] where
  last := by intro pre s r post h; simp at h
  long := by simp

/-- One more write, at a slot that leaves no gap. -/
theorem Holds.append {w s : ℕ} {file r : List α} {ws : Log α} (h : Holds w file ws)
    (hr : r.length = w) (hs : w * s ≤ file.length) :
    Holds w (writeAt file (w * s) r) (ws ++ [(s, r)]) where
  last := by
    intro pre t r' post he hpost
    rcases List.eq_nil_or_concat post with rfl | ⟨post', q, rfl⟩
    · obtain ⟨-, hp⟩ := List.append_inj' he rfl
      obtain ⟨rfl, rfl⟩ := Prod.mk.inj (List.head_eq_of_cons_eq hp)
      exact chunk_writeAt_self hr hs
    · rw [List.concat_eq_append, ← List.cons_append, ← List.append_assoc] at he
      obtain ⟨hws, hq⟩ := List.append_inj' he rfl
      have hq' : (s, r) = q := List.head_eq_of_cons_eq hq
      subst hq'
      simp only [List.concat_eq_append, List.map_append, List.map_cons, List.map_nil,
        List.mem_append, List.mem_singleton, not_or] at hpost
      rw [chunk_writeAt_ne hr hs hpost.2]
      exact h.last pre t r' post' hws hpost.1
  long := by
    intro p hp
    rw [writeAt_length hs]
    rcases List.mem_append.mp hp with hp | hp
    · exact le_trans (h.long p hp) (le_max_left _ _)
    · rw [List.mem_singleton.mp hp, hr, Nat.mul_succ]
      exact le_max_right _ _

/-- The last `k` writes are all still there, each in a slot of its own. -/
structure LastKept (w k : ℕ) (file : List α) (ws : Log α) : Prop where
  intact : ∀ p ∈ ws.drop (ws.length - k), chunk w p.1 file = p.2
  apart : ((ws.drop (ws.length - k)).map Prod.fst).Nodup

/-- On a file that holds the log, nothing but the slots decides whether the last `k` writes
survive. -/
theorem Holds.lastKept_iff {w k : ℕ} {file : List α} {ws : Log α} (h : Holds w file ws) :
    LastKept w k file ws ↔ ((ws.map Prod.fst).drop (ws.length - k)).Nodup := by
  rw [← List.map_drop]
  refine ⟨LastKept.apart, fun hnd => ⟨?_, hnd⟩⟩
  intro p hp
  obtain ⟨mid, post, hmid⟩ := List.append_of_mem hp
  have hsplit : ws = (ws.take (ws.length - k) ++ mid) ++ (p.1, p.2) :: post := by
    rw [List.append_assoc, ← hmid, List.take_append_drop]
  apply h.last _ _ _ _ hsplit
  rw [hmid, List.map_append, List.map_cons] at hnd
  exact (List.nodup_cons.mp (List.nodup_append.mp hnd).2.1).1

/-! ### Slot sequences -/

/-- The last `k` entries of a sequence of slots are distinct iff no two indices of the window
share a slot. -/
theorem nodup_window_iff (slot : ℕ → ℕ) (n k : ℕ) :
    (((List.range n).map slot).drop (n - k)).Nodup ↔
      ∀ i j, n - k ≤ i → i < j → j < n → slot i ≠ slot j := by
  have hdrop : ((List.range n).map slot).drop (n - k) =
      (List.range' (n - k) (n - (n - k))).map slot := by
    rw [← List.map_drop, List.range_eq_range', List.drop_range']
    simp
  rw [hdrop]
  constructor
  · intro h i j hi hij hj heq
    have := List.inj_on_of_nodup_map h (List.mem_range'_1.mpr ⟨hi, by omega⟩)
      (List.mem_range'_1.mpr ⟨by omega, by omega⟩) heq
    omega
  · intro h
    refine List.Nodup.map_on ?_ List.nodup_range'
    intro i hi j hj heq
    rw [List.mem_range'_1] at hi hj
    rcases Nat.lt_trichotomy i j with hlt | rfl | hgt
    · exact absurd heq (h i j hi.1 hlt (by omega))
    · rfl
    · exact absurd heq.symm (h j i hj.1 hgt (by omega))

/-- Two indices less than `m` apart have different residues modulo `m`. -/
theorem mod_ne_of_lt {m i j : ℕ} (hij : i < j) (h : j < i + m) : i % m ≠ j % m := by
  intro heq
  have hdvd : m ∣ j - i := (Nat.modEq_iff_dvd' hij.le).mp heq
  have := Nat.le_of_dvd (by omega) hdvd
  omega

theorem succ_mod_of_ne {n m : ℕ} (h : (n + 1) % m ≠ 0) : (n + 1) % m = n % m + 1 := by
  rcases Nat.eq_zero_or_pos m with rfl | hm
  · simp
  · have hlt := Nat.mod_lt (n + 1) hm
    obtain ⟨r, hr⟩ := Nat.exists_eq_add_one_of_ne_zero h
    have hn : n = m * ((n + 1) / m) + r := by
      have := Nat.div_add_mod (n + 1) m
      omega
    have hmod : n % m = r := by
      conv_lhs => rw [hn]
      rw [Nat.mul_add_mod, Nat.mod_eq_of_lt (by omega)]
    rw [hr, hmod]

/-- A ring of `N` slots keeps its last `N` writes. -/
theorem nodup_ring (N n : ℕ) : (((List.range n).map (· % N)).drop (n - N)).Nodup := by
  rw [nodup_window_iff]
  intro i j hi hij hj
  exact mod_ne_of_lt hij (by omega)

/-- A counter that runs modulo `N + 1` over a ring of `N` slots visits slot `0` twice in a row
on every turn: the last `N` writes survive only as long as the counter has not wrapped, or when
the window just misses one of the two visits. -/
theorem nodup_drift_iff {N : ℕ} (hN : 0 < N) (n : ℕ) :
    (((List.range n).map (fun i => i % (N + 1) % N)).drop (n - N)).Nodup ↔
      n ≤ N ∨ n % (N + 1) = 0 ∨ n % (N + 1) = N := by
  rw [nodup_window_iff]
  have hlt : n % (N + 1) < N + 1 := Nat.mod_lt _ (by omega)
  constructor
  · intro h
    by_contra hcon
    simp only [not_or] at hcon
    obtain ⟨hn, h0, hNe⟩ := hcon
    -- the start of the current turn and the index before it both land in slot 0
    have hdm := Nat.div_add_mod n (N + 1)
    generalize n / (N + 1) = q at hdm
    cases q with
    | zero => simp only [Nat.mul_zero, Nat.zero_add] at hdm; omega
    | succ q =>
        have hexp : (N + 1) * (q + 1) = (N + 1) * q + N + 1 := by rw [Nat.mul_succ]; omega
        apply h ((N + 1) * q + N) ((N + 1) * q + N + 1) (by omega) (by omega) (by omega)
        show ((N + 1) * q + N) % (N + 1) % N = ((N + 1) * q + N + 1) % (N + 1) % N
        rw [← hexp, Nat.mul_mod_right, Nat.mul_add_mod, Nat.mod_eq_of_lt (by omega : N < N + 1),
          Nat.mod_self, Nat.zero_mod]
  · intro h i j hi hij hj heq
    have hi' : i % (N + 1) < N + 1 := Nat.mod_lt _ (by omega)
    have hj' : j % (N + 1) < N + 1 := Nat.mod_lt _ (by omega)
    have hne : i % (N + 1) ≠ j % (N + 1) := mod_ne_of_lt hij (by omega)
    -- neither index of the window has the residue of `n` itself
    have hin : i % (N + 1) ≠ n % (N + 1) := mod_ne_of_lt (by omega) (by omega)
    have hjn : j % (N + 1) ≠ n % (N + 1) := mod_ne_of_lt (by omega) (by omega)
    have hred : ∀ a, a < N + 1 → a % N = if a = N then 0 else a := by
      intro a ha
      split_ifs with he
      · rw [he, Nat.mod_self]
      · exact Nat.mod_eq_of_lt (by omega)
    rw [hred _ hi', hred _ hj'] at heq
    rcases h with h | h | h
    · rw [Nat.mod_eq_of_lt (by omega : i < N + 1), Nat.mod_eq_of_lt (by omega : j < N + 1)] at heq
      split_ifs at heq <;> omega
    · split_ifs at heq <;> omega
    · split_ifs at heq <;> omega

/-! ### A log behind a counter -/

/-- The counter runs modulo `period` and addresses slot `counter % N` of the file. -/
structure RingInv (w N period : ℕ) (file : List α) (counter : ℕ) (ws : Log α) : Prop where
  holds : Holds w file ws
  slots : ws.map Prod.fst = (List.range ws.length).map (fun i => i % period % N)
  count : counter = ws.length % period

namespace RingInv

variable {w N period counter : ℕ} {file : List α} {ws : Log α}

theorem init (w N period : ℕ) (file : List α) : RingInv w N period file 0 ([] : Log α) where
  holds := Holds.nil w file
  slots := rfl
  count := by simp

/-- The slot addressed next never lies beyond the end of the file: it is the first slot, or the
slot after the one written last. -/
theorem no_gap (h : RingInv w N period file counter ws) : w * (counter % N) ≤ file.length := by
  by_cases h0 : counter % N = 0
  · rw [h0, Nat.mul_zero]
    exact Nat.zero_le _
  · have hc : ws.length % period ≠ 0 := by
      intro hz
      rw [h.count, hz, Nat.zero_mod] at h0
      exact h0 rfl
    obtain ⟨n, hn⟩ := Nat.exists_eq_add_one_of_ne_zero (fun hl => hc (by rw [hl, Nat.zero_mod]) :
      ws.length ≠ 0)
    rw [hn] at hc
    have hprev : counter = n % period + 1 := by rw [h.count, hn, succ_mod_of_ne hc]
    rw [hprev] at h0 ⊢
    have hmem : n % period % N ∈ ws.map Prod.fst := by
      rw [h.slots]
      exact List.mem_map.mpr ⟨n, List.mem_range.mpr (by omega), rfl⟩
    obtain ⟨p, hp, hpn⟩ := List.mem_map.mp hmem
    rw [succ_mod_of_ne h0, ← hpn]
    exact h.holds.long p hp

/-- Appending at the slot under the counter and advancing the counter. -/
theorem append {r : List α} (h : RingInv w N period file counter ws) (hr : r.length = w) :
    RingInv w N period (writeAt file (w * (counter % N)) r) ((counter + 1) % period)
      (ws ++ [(counter % N, r)]) where
  holds := h.holds.append hr h.no_gap
  slots := by
    simp only [List.map_append, List.map_cons, List.map_nil, List.length_append,
      List.length_cons, List.length_nil, Nat.zero_add, List.range_succ, h.slots, h.count]
  count := by
    simp only [List.length_append, List.length_cons, List.length_nil, h.count, Nat.mod_add_mod]

theorem lastKept_iff {k : ℕ} (h : RingInv w N period file counter ws) :
    LastKept w k file ws ↔
      (((List.range ws.length).map (fun i => i % period % N)).drop (ws.length - k)).Nodup := by
  rw [h.holds.lastKept_iff, h.slots]

end RingInv

end SlotFile
