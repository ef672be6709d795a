import Mathlib.Data.List.Basic

/-! # A synchronous serial line

Four wires lead to a receiver: the select, low while a word is being sent, a wire that tells the kind of
the word, the clock and the data.  At every rising edge of the clock the receiver takes one bit into a
register of `n` bits; when the register is full it has received a word.

`word` sends one word, and whatever the wires were at before, the receiver gets the words that were sent
in their order (`received_words`). -/

namespace SyncSerial

inductive Wire where
  | select
  | kind
  | clock
  | data
  deriving DecidableEq

/-- A wire is driven. -/
def drive (level : Wire → Bool) (w : Wire) (b : Bool) : Wire → Bool :=
  fun v => if v = w then b else level v

structure Receiver where
  level : Wire → Bool
  /-- the bits of the word under way -/
  register : List Bool
  received : List (Bool × List Bool)

namespace Receiver
variable {n : ℕ}

/-- The receiver takes the bit on the wire. -/
def shift (n : ℕ) (r : Receiver) : Receiver :=
  let bits := r.register ++ [r.level .data]
  if bits.length = n then { r with register := [], received := r.received ++ [(r.level .kind, bits)] }
  else { r with register := bits }

/-- The receiver at a change of a wire. -/
def write (n : ℕ) (r : Receiver) (x : Wire × Bool) : Receiver :=
  let r' := { r with level := drive r.level x.1 x.2 }
  if x = (.clock, true) ∧ r.level .clock = false ∧ r.level .select = false then r'.shift n
  else if x = (.select, true) then { r' with register := [] }
  else r'

def run (n : ℕ) (xs : List (Wire × Bool)) (r : Receiver) : Receiver := xs.foldl (write n) r

@[simp] theorem run_nil (r : Receiver) : r.run n [] = r := rfl

@[simp] theorem run_cons (x : Wire × Bool) (xs : List (Wire × Bool)) (r : Receiver) :
    r.run n (x :: xs) = (r.write n x).run n xs := rfl

theorem run_append (xs ys : List (Wire × Bool)) (r : Receiver) :
    r.run n (xs ++ ys) = (r.run n xs).run n ys := List.foldl_append

end Receiver

/-- The wires while one bit is sent. -/
def bit (b : Bool) : List (Wire × Bool) := [(.data, b), (.clock, false), (.clock, true)]

/-- The wires while a word is sent. -/
def word (kind : Bool) (bits : List Bool) : List (Wire × Bool) :=
  (.select, false) :: (.kind, kind) :: bits.flatMap bit ++ [(.select, true)]

variable {n : ℕ}

/-- One bit enters the register. -/
theorem run_bit {r : Receiver} (hs : r.level .select = false) (b : Bool) :
    ∃ r' : Receiver, r.run n (bit b) = r'.shift n ∧ r'.level .select = false ∧ r'.level .kind = r.level .kind ∧
      r'.level .data = b ∧ r'.register = r.register ∧ r'.received = r.received := by
  refine ⟨{ r with level := drive (drive (drive r.level .data b) .clock false) .clock true }, ?_, ?_⟩
  · simp [bit, Receiver.write, drive, hs]
  · simp [drive, hs]

/-- The bits of a word fill the register, and the last one makes it a word. -/
theorem run_bits (bits : List Bool) {r : Receiver} (hs : r.level .select = false)
    (hn : r.register.length + bits.length = n) (hb : bits ≠ []) :
    (r.run n (bits.flatMap bit)).register = [] ∧
      (r.run n (bits.flatMap bit)).received =
        r.received ++ [(r.level .kind, r.register ++ bits)] := by
  induction bits generalizing r with
  | nil => exact absurd rfl hb
  | cons b bits ih =>
      obtain ⟨r', hr, hs', hkind, hdata, hregister, hreceived⟩ := run_bit (n := n) hs b
      rw [List.flatMap_cons, Receiver.run_append, hr]
      cases bits with
      | nil =>
          have hfull : (r'.register ++ [r'.level .data]).length = n := by
            rw [hregister, List.length_append]
            exact hn
          rw [Receiver.shift, if_pos hfull, hkind, hdata, hregister, hreceived]
          exact ⟨rfl, rfl⟩
      | cons b' bits =>
          have hmore : (r'.register ++ [r'.level .data]).length ≠ n := by
            rw [hregister, ← hn]
            simp
          rw [Receiver.shift, if_neg hmore, hregister, hdata, hreceived, ← hkind]
          have hrest := ih (r := ⟨r'.level, r.register ++ [b], r.received⟩) hs'
            (by simp [← hn]; omega) (List.cons_ne_nil b' bits)
          rwa [List.append_assoc, List.singleton_append] at hrest

/-- **One word arrives**, whatever the wires were at before. -/
theorem received_word (hn : 0 < n) (kind : Bool) {bits : List Bool} (hb : bits.length = n)
    {r : Receiver} (hr : r.register = []) :
    (r.run n (word kind bits)).register = [] ∧
      (r.run n (word kind bits)).received = r.received ++ [(kind, bits)] := by
  have hne : bits ≠ [] := fun h => by simp [h] at hb; omega
  let r₁ : Receiver := { r with level := drive (drive r.level .select false) .kind kind }
  have hstart : r.run n [(.select, false), (.kind, kind)] = r₁ := by simp [Receiver.write, drive, r₁]
  have hbits := run_bits (n := n) bits (r := r₁) (by simp [r₁, drive]) (by simp [r₁, hr, hb]) hne
  have hend : ∀ s : Receiver, (s.run n [(.select, true)]).register = [] ∧
      (s.run n [(.select, true)]).received = s.received := fun s => by simp [Receiver.write]
  have hrun : r.run n (word kind bits) = (r₁.run n (bits.flatMap bit)).run n [(.select, true)] := by
    rw [← hstart, ← Receiver.run_append, ← Receiver.run_append]
    rfl
  rw [hrun, (hend _).2, hbits.2]
  refine ⟨(hend _).1, ?_⟩
  simp [r₁, drive, hr]

/-- **The words arrive**, all of them and in their order. -/
theorem received_words (hn : 0 < n) (words : List (Bool × List Bool))
    (hw : ∀ w ∈ words, w.2.length = n) {r : Receiver} (hr : r.register = []) :
    (r.run n (words.flatMap fun w => word w.1 w.2)).register = [] ∧
      (r.run n (words.flatMap fun w => word w.1 w.2)).received = r.received ++ words := by
  induction words generalizing r with
  | nil => exact ⟨hr, (List.append_nil _).symm⟩
  | cons w words ih =>
      obtain ⟨hregister, hreceived⟩ := received_word hn w.1 (hw w List.mem_cons_self) hr
      have hrest := ih (fun v hv => hw v (List.mem_cons_of_mem w hv)) hregister
      rw [List.flatMap_cons, Receiver.run_append]
      refine ⟨hrest.1, ?_⟩
      rw [hrest.2, hreceived, List.append_assoc, List.singleton_append]

end SyncSerial
