import Mathlib.Data.ZMod.Basic
import MeterTester.CheckDigits
import MeterTester.ReadBack
import MeterTester.UartAnswer

/-! # Single errors on the serial line: the check of `my_data_parsing`

The two check digits of an answer are those of the sum of its bytes modulo `0x100`, and its last byte
is a star: the check is one of check digits (`check_ok_iff_valid`).  An answer with one byte altered
behind its header does not pass it, neither in the buffer nor when the receive thread reads it
(`single_error_detected`). -/

namespace MeterTester

open HeaderScan Uart CheckDigits

/-! ### The check as a code -/

theorem number_hex_inj {d e : ℕ} (hd : d < 0x10) (he : e < 0x10)
    (h : number_hex (UInt8.ofNat d) = number_hex (UInt8.ofNat e)) : d = e := by
  rw [← hex_char_number_hex hd, h, hex_char_number_hex he]

theorem cast_toNat_injective : Function.Injective fun b : UInt8 => (b.toNat : ZMod 0x100) := by
  intro b c h
  have hval := congrArg ZMod.val h
  rw [ZMod.val_natCast_of_lt b.toNat_lt, ZMod.val_natCast_of_lt c.toNat_lt] at hval
  exact UInt8.toNat_inj.mp hval

/-- The digits of a sum in the answer of `len` bytes, and the star behind them. -/
def answer_digit (len k : ℕ) (sum : ZMod 0x100) : UInt8 :=
  if k = len - 1 then '*'.toUInt8
  else if k = len - 3 then number_hex (UInt8.ofNat (sum.val / 0x10))
  else number_hex (UInt8.ofNat (sum.val % 0x10))

/-- The answers of `len` bytes, from the second byte on. -/
def answer_code (len : ℕ) (h : 4 ≤ len) : Code ℕ UInt8 (ZMod 0x100) where
  summed := Finset.Ico 1 (len - 3)
  check := {len - 3, len - 2, len - 1}
  weight b := (b.toNat : ZMod 0x100)
  digit := answer_digit len
  disjoint := by
    rw [Finset.disjoint_left]
    intro i hi
    simp only [Finset.mem_Ico] at hi
    simp only [Finset.mem_insert, Finset.mem_singleton]
    omega
  weight_injective := cast_toNat_injective
  digit_injective := by
    intro a b hab
    have hhigh := hab (len - 3) (by simp)
    have hlow := hab (len - 2) (by simp)
    have ha := a.val_lt
    have hb := b.val_lt
    unfold answer_digit at hhigh hlow
    rw [if_neg (by omega), if_pos rfl, if_neg (by omega), if_pos rfl] at hhigh
    rw [if_neg (by omega), if_neg (by omega), if_neg (by omega), if_neg (by omega)] at hlow
    have h16 := number_hex_inj (by omega) (by omega) hhigh
    have h1 := number_hex_inj (Nat.mod_lt _ (by decide)) (Nat.mod_lt _ (by decide)) hlow
    apply ZMod.val_injective
    omega

/-- The running sum of the loop is the sum of the code. -/
theorem hex_check_total (data : ℕ → UInt8) {len : ℕ} (h : 4 ≤ len) :
    hex_check data len = ((answer_code len h).total data).val := by
  have hsum : ∀ m : ℕ, (((List.range m).map fun i => (data (i + 1)).toNat).sum : ZMod 0x100) =
      ∑ i ∈ Finset.range m, ((data (i + 1)).toNat : ZMod 0x100) := by
    intro m
    induction m with
    | zero => rfl
    | succ m ih =>
        rw [List.range_succ, List.map_append, List.sum_append, Nat.cast_add, ih,
          Finset.sum_range_succ]
        simp
  have hshift : (answer_code len h).total data =
      ∑ i ∈ Finset.range (len - 4), ((data (i + 1)).toNat : ZMod 0x100) := by
    unfold Code.total answer_code
    rw [Finset.range_eq_Ico, Finset.sum_Ico_add' (fun i => ((data i).toNat : ZMod 0x100)),
      Nat.zero_add, show len - 4 + 1 = len - 3 by omega]
  rw [hshift, ← hsum, hex_check, foldl_add_mod fun i => (data (i + 1)).toNat]
  exact (ZMod.val_natCast _ _).symm

/-- **The check is that of the code.** -/
theorem check_ok_iff_valid (data : ℕ → UInt8) {len : ℕ} (h : 4 ≤ len) :
    check_ok data len = true ↔ (answer_code len h).Valid data := by
  have hdigit : ∀ k, (answer_code len h).digit k ((answer_code len h).total data) =
      answer_digit len k ((answer_code len h).total data) := fun _ => rfl
  have hcheck : (answer_code len h).check = {len - 3, len - 2, len - 1} := rfl
  unfold check_ok Code.Valid
  rw [decide_eq_true_eq, hcheck, hex_check_total data h]
  simp only [Finset.mem_insert, Finset.mem_singleton, forall_eq_or_imp, forall_eq, hdigit]
  unfold answer_digit
  rw [if_neg (by omega), if_pos rfl, if_neg (by omega), if_neg (by omega), if_pos rfl]
  exact ⟨fun ⟨hstar, hhigh, hlow⟩ => ⟨hhigh, hlow, hstar⟩,
    fun ⟨hhigh, hlow, hstar⟩ => ⟨hstar, hhigh, hlow⟩⟩

/-- Answers with one header that pass the check do not differ in exactly one byte. -/
theorem check_ok_not_single {data data' : ℕ → UInt8} {len : ℕ} (h4 : 4 ≤ len)
    (hheader : ∀ i < 3, data i = data' i) (h : check_ok data len = true)
    (h' : check_ok data' len = true) : ¬ ∃! i, i < len ∧ data i ≠ data' i := by
  rw [check_ok_iff_valid _ h4] at h h'
  rintro ⟨i, ⟨hlt, hne⟩, honly⟩
  have hpositions : ∀ j, j ∈ (answer_code len h4).summed ∪ (answer_code len h4).check ↔
      1 ≤ j ∧ j < len := by
    intro j
    simp only [answer_code, Finset.mem_union, Finset.mem_Ico, Finset.mem_insert,
      Finset.mem_singleton]
    omega
  have h1 : 1 ≤ i := by
    by_contra h0
    exact hne (hheader i (by omega))
  refine h.not_existsUnique_ne h' ⟨i, ⟨(hpositions i).mpr ⟨h1, hlt⟩, hne⟩, ?_⟩
  rintro j ⟨hj, hjne⟩
  exact honly j ⟨((hpositions j).mp hj).2, hjne⟩

/-! ### The parser -/

namespace Uart

/-- The byte at `i` of the buffer is replaced by `b`. -/
def substituted (s : Uart) (i : ℕ) (b : UInt8) : Uart :=
  { s with data := s.data.setIfInBounds i b }

theorem byte_substituted (s : Uart) {i : ℕ} (hi : i < ONE_DATA_MAXLEN) (b : UInt8) (j : ℕ) :
    (s.substituted i b).byte j = if j = i then b else s.byte j := by
  have hlt : i < s.data.toList.length := by simpa [ONE_DATA_MAXLEN] using hi
  unfold byte substituted
  simp only [Vector.toList_setIfInBounds, List.getD_eq_getElem?_getD, List.getElem?_set]
  by_cases h : i = j
  · rw [if_pos h, if_pos h.symm, if_pos hlt, Option.getD_some]
  · rw [if_neg h, if_neg (Ne.symm h)]

/-- A buffer that does not pass the check is an error, and leaves the value as it was. -/
theorem my_data_parsing_error {s : Uart} (h : check_ok s.byte s.data_len = false) :
    s.my_data_parsing.uart_flag = UART_ERROR_DATA ∧
      s.my_data_parsing.uart_get_data = s.uart_get_data := by
  unfold my_data_parsing
  rw [if_neg (by simp [h])]
  exact ⟨rfl, rfl⟩

end Uart

/-- One byte behind the header of a buffer that passes has been altered. -/
theorem check_ok_altered {data data' : ℕ → UInt8} {len i : ℕ} (h4 : 4 ≤ len) (h3 : 3 ≤ i)
    (hi : i < len) (hne : data' i ≠ data i) (hrest : ∀ j < len, j ≠ i → data' j = data j)
    (h : check_ok data len = true) : check_ok data' len = false := by
  by_contra hok
  have h' : check_ok data' len = true := by simpa using hok
  refine check_ok_not_single h4 ?_ h h' ⟨i, ⟨hi, hne.symm⟩, ?_⟩
  · intro j hj
    exact (hrest j (by omega) (by omega)).symm
  · rintro j ⟨hj, hjne⟩
    by_contra hji
    exact hjne (hrest j hj hji).symm

/-! ### The receive thread -/

/-- From `s` the bytes `xs` have been taken into an empty buffer, and the end of the answer has not
been reached. -/
structure Took (s : Uart) (xs : List UInt8) (t : Uart) : Prop where
  data_len : t.data_len = xs.length
  bytes : ReadAs t.byte xs
  data_end : t.data_end = s.data_end
  uart_commend : t.uart_commend = s.uart_commend
  uart_get_data : t.uart_get_data = s.uart_get_data

theorem readAs_concat {data data' : ℕ → UInt8} {xs : List UInt8} {ch : UInt8} (h : ReadAs data xs)
    (hdata : ∀ i, data' i = if i = xs.length then ch else data i) : ReadAs data' (xs ++ [ch]) := by
  intro i hi
  rw [List.length_append, List.length_singleton] at hi
  rw [hdata, List.getD_eq_getElem?_getD]
  by_cases he : i = xs.length
  · rw [if_pos he, he, List.getElem?_concat_length, Option.getD_some]
  · rw [if_neg he, List.getElem?_append_left (by omega), ← List.getD_eq_getElem?_getD]
    exact h i (by omega)

/-- One more byte has been stored. -/
theorem Took.stored_at {s t : Uart} {xs : List UInt8} (h : Took s xs t) (ch : UInt8)
    (hlt : t.data_len < 100) : Took s (xs ++ [ch]) (t.stored_at ch hlt) where
  data_len := by
    rw [List.length_append, List.length_singleton, ← h.data_len]
    rfl
  bytes := readAs_concat h.bytes fun i => by rw [byte_stored_at, h.data_len]
  data_end := h.data_end
  uart_commend := h.uart_commend
  uart_get_data := h.uart_get_data

section receive
variable {s : Uart}

theorem feed_concat (xs : List UInt8) (ch : UInt8) (s : Uart) :
    s.feed (xs ++ [ch]) = (s.feed xs).bind (data_parsing ch) := by
  unfold Uart.feed
  rw [List.foldlM_append]
  simp

/-- One more byte is stored; with the last one the answer is parsed. -/
theorem Took.data_parsing {t : Uart} {xs : List UInt8} {ch : UInt8} (h : Took s xs t)
    (h7 : 7 ≤ s.data_end) (h100 : s.data_end ≤ ONE_DATA_MAXLEN) (hlt : xs.length < s.data_end)
    (hacc : accepts header xs.length (ch, s.uart_commend) = true) :
    ∃ t', Took s (xs ++ [ch]) t' ∧ t.data_parsing ch =
      some (if xs.length + 1 = s.data_end then t'.my_data_parsing else t') := by
  have hch : t.is_stored ch = true := by
    rw [is_stored_eq, h.data_len, h.uart_commend]
    exact hacc
  have hroom : t.data_len < 100 := by
    rw [h.data_len]
    exact lt_of_lt_of_le hlt h100
  refine ⟨t.stored_at ch hroom, h.stored_at ch hroom, ?_⟩
  rw [data_parsing_stored (by rw [h.data_end]; exact h7) hch hroom, h.data_len, h.data_end]

/-- Of a list that the header accepts, the last byte and those before it. -/
theorem accepts_concat {xs : List UInt8} {ch letter : UInt8} :
    (∀ i < (xs ++ [ch]).length, accepts header i ((xs ++ [ch]).getD i 0, letter) = true) →
      (∀ i < xs.length, accepts header i (xs.getD i 0, letter) = true) ∧
        accepts header xs.length (ch, letter) = true := by
  intro hacc
  constructor
  · intro i hi
    have hone := hacc i (by simp; omega)
    rwa [List.getD_append _ _ _ _ hi] at hone
  · have hlast := hacc xs.length (by simp)
    rwa [List.getD_append_right _ _ _ _ le_rfl, Nat.sub_self] at hlast

/-- The bytes before the last one are taken: the induction is on what has come so far. -/
theorem feed_took (h7 : 7 ≤ s.data_end) (h100 : s.data_end ≤ ONE_DATA_MAXLEN) (h0 : s.data_len = 0)
    (xs : List UInt8) (hlt : xs.length < s.data_end)
    (hacc : ∀ i < xs.length, accepts header i (xs.getD i 0, s.uart_commend) = true) :
    ∃ t, s.feed xs = some t ∧ Took s xs t := by
  induction xs using List.reverseRecOn with
  | nil => exact ⟨s, rfl, h0, fun i hi => absurd hi (Nat.not_lt_zero i), rfl, rfl, rfl⟩
  | append_singleton xs ch ih =>
      rw [List.length_append, List.length_singleton] at hlt
      obtain ⟨hbefore, hlast⟩ := accepts_concat hacc
      obtain ⟨t, ht, htook⟩ := ih (by omega) hbefore
      obtain ⟨t', htook', hparse⟩ := htook.data_parsing h7 h100 (by omega) hlast
      refine ⟨t', ?_, htook'⟩
      rw [feed_concat, ht, Option.bind_some, hparse, if_neg (by omega)]

/-- A whole answer is parsed. -/
theorem feed_whole (h7 : 7 ≤ s.data_end) (h100 : s.data_end ≤ ONE_DATA_MAXLEN) (h0 : s.data_len = 0)
    {f : List UInt8} (hf : f.length = s.data_end)
    (hheader : f.take 3 = ['@'.toUInt8, 'A'.toUInt8, s.uart_commend]) :
    ∃ t, s.feed f = some t.my_data_parsing ∧ Took s f t := by
  have hacc : ∀ i < f.length, accepts header i (f.getD i 0, s.uart_commend) = true := by
    intro i hi
    by_cases h3 : header.length ≤ i
    · exact accepts_of_le h3 _
    · have hsmall : i < 3 := by simpa [header] using h3
      have hget : f.getD i 0 = ['@'.toUInt8, 'A'.toUInt8, s.uart_commend].getD i 0 := by
        rw [← hheader, List.getD_eq_getElem?_getD, List.getD_eq_getElem?_getD,
          List.getElem?_take_of_lt hsmall]
      rw [hget]
      interval_cases i <;> simp [accepts, header]
  obtain ⟨xs, ch, rfl⟩ : ∃ xs ch, f = xs ++ [ch] := by
    rcases List.eq_nil_or_concat f with rfl | ⟨xs, ch, rfl⟩
    · rw [List.length_nil] at hf
      omega
    · exact ⟨xs, ch, List.concat_eq_append⟩
  rw [List.length_append, List.length_singleton] at hf
  obtain ⟨hbefore, hlast⟩ := accepts_concat hacc
  obtain ⟨t, ht, htook⟩ := feed_took h7 h100 h0 xs (by omega) hbefore
  obtain ⟨t', htook', hparse⟩ := htook.data_parsing h7 h100 (by omega) hlast
  refine ⟨t', ?_, htook'⟩
  rw [feed_concat, ht, Option.bind_some, hparse, if_pos hf]

/-- An answer with a byte altered behind its header ends as an error. -/
theorem feed_altered (h7 : 7 ≤ s.data_end) (h100 : s.data_end ≤ ONE_DATA_MAXLEN) (h0 : s.data_len = 0)
    {f : List UInt8} (hf : f.length = s.data_end)
    (hheader : f.take 3 = ['@'.toUInt8, 'A'.toUInt8, s.uart_commend])
    (hok : check_ok (f.getD · 0) f.length = true) {i : ℕ} (h3 : 3 ≤ i) (hi : i < f.length) {b : UInt8}
    (hb : b ≠ f.getD i 0) : ∃ s', s.feed (f.set i b) = some s' ∧ s'.uart_flag = UART_ERROR_DATA ∧
      s'.uart_get_data = s.uart_get_data := by
  have hlen : (f.set i b).length = f.length := List.length_set
  have hget : ∀ j, (f.set i b).getD j 0 = if j = i then b else f.getD j 0 := by
    intro j
    rw [List.getD_eq_getElem?_getD, List.getElem?_set, List.getD_eq_getElem?_getD]
    by_cases hji : i = j
    · rw [if_pos hji, if_pos hji.symm, if_pos hi, Option.getD_some]
    · rw [if_neg hji, if_neg (Ne.symm hji)]
  obtain ⟨t, ht, htook⟩ := feed_whole h7 h100 h0 (f := f.set i b) (by rw [hlen, hf]) (by
    rw [List.take_set_of_le h3, hheader])
  have hbad : check_ok t.byte t.data_len = false := by
    rw [htook.data_len, hlen]
    apply check_ok_altered (by omega) h3 hi _ _ hok
    · rw [htook.bytes i (by rw [hlen]; exact hi), hget, if_pos rfl]
      exact hb
    · intro j hj hji
      rw [htook.bytes j (by rw [hlen]; exact hj), hget, if_neg hji]
  obtain ⟨hflag, hvalue⟩ := my_data_parsing_error hbad
  exact ⟨t.my_data_parsing, ht, hflag, hvalue.trans htook.uart_get_data⟩

end receive

/-! ### Every single error -/

/-- **Every single error is detected.**  No two answers of `n` bytes with one header pass the check
and differ in exactly one byte.  An answer that passes, with one byte behind its header replaced, is
an error: in the buffer, and when the receive thread reads it. -/
theorem single_error_detected {n : ℕ} (h7 : 7 ≤ n) (h100 : n ≤ ONE_DATA_MAXLEN) :
    (∀ s t : Uart, (∀ i < 3, s.byte i = t.byte i) → check_ok s.byte n = true →
        check_ok t.byte n = true → ¬ ∃! i, i < n ∧ s.byte i ≠ t.byte i) ∧
      (∀ s : Uart, s.data_len = n → check_ok s.byte n = true → ∀ i b, 3 ≤ i → i < n → b ≠ s.byte i →
        (s.substituted i b).my_data_parsing.uart_flag = UART_ERROR_DATA ∧
          (s.substituted i b).my_data_parsing.uart_get_data = s.uart_get_data) ∧
      ∀ s : Uart, s.data_len = 0 → s.data_end = n → ∀ f : List UInt8, f.length = n →
        f.take 3 = ['@'.toUInt8, 'A'.toUInt8, s.uart_commend] → check_ok (f.getD · 0) n = true →
          ∀ i b, 3 ≤ i → i < n → b ≠ f.getD i 0 → ∃ s', s.feed (f.set i b) = some s' ∧
            s'.uart_flag = UART_ERROR_DATA ∧ s'.uart_get_data = s.uart_get_data := by
  refine ⟨fun s t hheader hs ht => check_ok_not_single (by omega) hheader hs ht, ?_, ?_⟩
  · intro s hlen hok i b h3 hi hb
    apply my_data_parsing_error
    have hbyte := byte_substituted s (lt_of_lt_of_le hi h100) b
    have hlen' : (s.substituted i b).data_len = n := hlen
    rw [hlen']
    apply check_ok_altered (by omega) h3 hi _ _ hok
    · rw [hbyte, if_pos rfl]
      exact hb
    · intro j _ hji
      rw [hbyte, if_neg hji]
  · rintro s h0 rfl f hf hheader hok i b h3 hi hb
    rw [← hf] at hok hi
    exact feed_altered h7 h100 h0 hf hheader hok h3 hi hb

/-- The answer `@AA0B2*` with its `0` replaced by a `1`. -/
theorem single_error_detected_seven : ∃ s', { Uart.start (fun _ => 0) 0 with
      data_end := 7
      uart_commend := 'A'.toUInt8 }.feed (("@AA0B2*".toList.map Char.toUInt8).set 3 '1'.toUInt8) =
      some s' ∧ s'.uart_flag = UART_ERROR_DATA ∧ s'.uart_get_data = 0 :=
  (single_error_detected (n := 7) (by decide) (by decide)).2.2 _ rfl rfl
    ("@AA0B2*".toList.map Char.toUInt8) (by decide) (by decide) (by decide) 3 '1'.toUInt8 (by decide)
    (by decide) (by decide)

end MeterTester
