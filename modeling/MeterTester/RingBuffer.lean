import Mathlib.Data.List.Basic
import Mathlib.Data.Vector.Basic
import Mathlib.Tactic

/-! # Ring buffers that overwrite

A ring buffer of `N` cells is read at `get` and written behind the `n` entries that wait (`stretch`).
`keep n q x` is the queue it stands for: `x` is put behind `q`, and if there are then more than `n`
entries the first one is lost.

`Flow` is such a queue with what has gone through it.  Whatever is put and taken in whatever order,
what has been taken and what waits stand in the order in which they came, nothing twice
(`Flow.Sound`), and they are all that came exactly if nothing has been lost (`Flow.Sound.all_iff`). -/

namespace RingBuffer

variable {α : Type}

/-! ### The cells -/

/-- The next cell of a ring of `N`. -/
def following {N : ℕ} (i : Fin N) : Fin N :=
  if h : N ≤ i.1 + 1 then ⟨0, by have := i.2; omega⟩ else ⟨i.1 + 1, by omega⟩

theorem following_val {N : ℕ} (i : Fin N) : (following i).1 = (i.1 + 1) % N := by
  have hi := i.2
  unfold following
  split_ifs with h
  · have hN : i.1 + 1 = N := by omega
    rw [hN, Nat.mod_self]
  · exact (Nat.mod_eq_of_lt (by omega)).symm

/-- The cell `n` places behind `i`. -/
def ahead {N : ℕ} (i : Fin N) (n : ℕ) : Fin N := ⟨(i.1 + n) % N, Nat.mod_lt _ (by have := i.2; omega)⟩

theorem ahead_zero {N : ℕ} (i : Fin N) : ahead i 0 = i := Fin.ext (Nat.mod_eq_of_lt i.2)

theorem ahead_self {N : ℕ} (i : Fin N) : ahead i N = i :=
  Fin.ext (by show (i.1 + N) % N = i.1; rw [Nat.add_mod_right, Nat.mod_eq_of_lt i.2])

theorem ahead_following {N : ℕ} (i : Fin N) (n : ℕ) : ahead (following i) n = ahead i (n + 1) := by
  apply Fin.ext
  show ((following i).1 + n) % N = (i.1 + (n + 1)) % N
  rw [following_val, Nat.mod_add_mod, Nat.add_assoc, Nat.add_comm 1 n]

theorem following_ahead {N : ℕ} (i : Fin N) (n : ℕ) : following (ahead i n) = ahead i (n + 1) := by
  apply Fin.ext
  rw [following_val]
  show ((i.1 + n) % N + 1) % N = (i.1 + (n + 1)) % N
  rw [Nat.mod_add_mod, Nat.add_assoc]

theorem ahead_eq_iff {N : ℕ} (i : Fin N) {n m : ℕ} (hn : n < N) (hm : m < N) :
    ahead i n = ahead i m ↔ n = m := by
  constructor
  · intro h
    have hmod : i.1 + n ≡ i.1 + m [MOD N] := congrArg Fin.val h
    exact Nat.ModEq.eq_of_lt_of_lt (Nat.ModEq.add_left_cancel' i.1 hmod) hn hm
  · exact fun h => h ▸ rfl

/-- The `n` entries from the cell `get` on. -/
def stretch {N : ℕ} (buffer : Vector α N) (get : Fin N) (n : ℕ) : List α :=
  (List.range n).map fun i => buffer.get (ahead get i)

section stretch
variable {N : ℕ} (buffer : Vector α N) (get : Fin N)

@[simp] theorem stretch_length (n : ℕ) : (stretch buffer get n).length = n := by simp [stretch]

/-- The first entry and the others. -/
theorem stretch_succ (n : ℕ) : stretch buffer get (n + 1) = buffer.get get :: stretch buffer (following get) n := by
  simp only [stretch, List.range_succ_eq_map, List.map_cons, List.map_map, ahead_zero]
  congr 1
  apply List.map_congr_left
  intro i _
  show buffer.get (ahead get (i + 1)) = buffer.get (ahead (following get) i)
  rw [ahead_following]

/-- An entry is written behind the others. -/
theorem stretch_set {n : ℕ} (hn : n < N) (x : α) :
    stretch (buffer.set (ahead get n) x) get (n + 1) = stretch buffer get n ++ [x] := by
  simp only [stretch, List.range_succ, List.map_append, List.map_singleton]
  congr 1
  · apply List.map_congr_left
    intro i hi
    have hlt := List.mem_range.mp hi
    apply Vector.getElem_set_ne
    intro h
    have heq : ahead get n = ahead get i := Fin.ext h
    rw [ahead_eq_iff get hn (by omega)] at heq
    omega
  · congr 1
    exact Vector.getElem_set_self _

end stretch

/-! ### The queue -/

/-- Put `x` behind `q`; of more than `n` entries the first ones are lost. -/
def keep (n : ℕ) (q : List α) (x : α) : List α := (q ++ [x]).drop (q.length + 1 - n)

theorem keep_of_lt {n : ℕ} {q : List α} (h : q.length < n) (x : α) : keep n q x = q ++ [x] := by
  rw [keep, Nat.sub_eq_zero_of_le h, List.drop_zero]

theorem keep_of_eq {n : ℕ} {q : List α} (h : q.length = n) (x : α) :
    keep n q x = (q ++ [x]).tail := by
  rw [keep, h, Nat.add_sub_cancel_left, List.drop_one]

/-- A queue with what has been put into it and taken out of it. -/
structure Flow (α : Type) where
  received : List α
  taken : List α
  queue : List α
  lost : ℕ

namespace Flow

def empty : Flow α := ⟨[], [], [], 0⟩

/-- Put `x` into a queue with room for `n`. -/
def put (n : ℕ) (x : α) (f : Flow α) : Flow α :=
  { f with
    received := f.received ++ [x]
    queue := keep n f.queue x
    lost := if f.queue.length < n then f.lost else f.lost + 1 }

@[simp] theorem put_queue (n : ℕ) (x : α) (f : Flow α) : (f.put n x).queue = keep n f.queue x := rfl

/-- Take the first entry, if there is one. -/
def take (f : Flow α) : Flow α :=
  { f with taken := f.taken ++ f.queue.head?.toList, queue := f.queue.tail }

/-- What every history of puts and takes keeps. -/
structure Sound (n : ℕ) (f : Flow α) : Prop where
  in_order : (f.taken ++ f.queue).Sublist f.received
  newest : f.queue <:+ f.received
  bounded : f.queue.length ≤ n
  counted : f.received.length = f.taken.length + f.queue.length + f.lost

namespace Sound
variable {n : ℕ} {f : Flow α}

theorem empty : (empty : Flow α).Sound n :=
  ⟨List.Sublist.refl _, List.suffix_refl _, Nat.zero_le n, rfl⟩

theorem put (h : f.Sound n) (x : α) : (f.put n x).Sound n where
  in_order := by
    have hdrop : (keep n f.queue x).Sublist (f.queue ++ [x]) := List.drop_sublist _ _
    have hall := h.in_order.append_right [x]
    rw [List.append_assoc] at hall
    exact ((List.Sublist.refl _).append hdrop).trans hall
  newest := by
    obtain ⟨old, hold⟩ := h.newest
    have hall : f.queue ++ [x] <:+ f.received ++ [x] := ⟨old, by rw [← List.append_assoc, hold]⟩
    exact (List.drop_suffix _ _).trans hall
  bounded := by
    show (keep n f.queue x).length ≤ n
    rw [keep, List.length_drop, List.length_append, List.length_singleton]
    omega
  counted := by
    have hb := h.bounded
    have hc := h.counted
    simp only [Flow.put, keep, List.length_append, List.length_singleton, List.length_drop]
    split_ifs <;> omega

theorem take (h : f.Sound n) : f.take.Sound n := by
  cases hq : f.queue with
  | nil =>
      have hsame : f.take = f := by
        unfold Flow.take
        rw [hq, List.head?_nil, Option.toList_none, List.append_nil, List.tail_nil, ← hq]
      rw [hsame]
      exact h
  | cons x q =>
      have hin := h.in_order
      have hnew := h.newest
      have hb := h.bounded
      have hc := h.counted
      rw [hq] at hin hnew hb hc
      simp only [List.length_cons] at hb hc
      refine ⟨?_, ?_, ?_, ?_⟩
      · simpa [Flow.take, hq] using hin
      · simpa [Flow.take, hq] using (List.suffix_cons x q).trans hnew
      · simp only [Flow.take, hq, List.tail_cons]
        omega
      · simp only [Flow.take, hq, List.tail_cons, List.head?_cons, Option.toList_some,
          List.length_append, List.length_singleton]
        omega

/-- Nothing is missing exactly if nothing has been lost. -/
theorem all_iff (h : f.Sound n) : f.taken ++ f.queue = f.received ↔ f.lost = 0 := by
  have hc := h.counted
  constructor
  · intro heq
    have hlen := congrArg List.length heq
    rw [List.length_append] at hlen
    omega
  · intro hlost
    apply h.in_order.eq_of_length
    rw [List.length_append]
    omega

end Sound

end Flow

end RingBuffer
