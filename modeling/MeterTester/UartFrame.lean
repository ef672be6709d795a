import MeterTester.Numeral
import MeterTester.SlotFile
import MeterTester.UartAnswer

/-! # The frames of the tester

A well-formed frame is `0xFF`, `@`, `A`, the letter of the command, a payload of hexadecimal digits,
the sum of the bytes from `A` to the payload as two digits, `*` and `0x0D` (`WellFormed`).  The
three issue functions build their frames from left to right in `fs_data`, over whatever the last
command has left there (`Begins`), and the other two threads do not touch it.

`sent_wellFormed_iff`: every frame is well formed but the one of `ms_open_valve`, whose payload is
the address of a string literal.

A meter that takes the number in the payload of a set command and shows it in its answer to a read
command shows what `main.c` has computed from the digits (`MSID_read_back`): the decimal number
fits the hexadecimal payload. -/

namespace MeterTester

open Interleave Uart SlotFile Numeral

/-! ### Well-formed frames -/

/-- The hexadecimal digits in upper case. -/
def IsHexChar (ch : UInt8) : Prop :=
  ('0'.toUInt8 ≤ ch ∧ ch ≤ '9'.toUInt8) ∨ ('A'.toUInt8 ≤ ch ∧ ch ≤ 'F'.toUInt8)

instance (ch : UInt8) : Decidable (IsHexChar ch) := inferInstanceAs (Decidable (_ ∨ _))

/-- The sum of the bytes modulo 256, as two digits. -/
def sum_digits (bs : List UInt8) : List UInt8 :=
  let number := (bs.map UInt8.toNat).sum % 0x100
  [number_hex (UInt8.ofNat (number / 0x10)), number_hex (UInt8.ofNat (number % 0x10))]

/-- A frame with its payload. -/
def frame_of (letter : UInt8) (payload : List UInt8) : List UInt8 :=
  frame_header letter ++ payload ++ sum_digits ('A'.toUInt8 :: letter :: payload) ++
    ['*'.toUInt8, 0x0D]

def WellFormed (letter : UInt8) (bytes : List UInt8) : Prop :=
  ∃ payload, (∀ ch ∈ payload, IsHexChar ch) ∧ bytes = frame_of letter payload

/-- A frame has one payload only. -/
theorem frame_of_injective {letter : UInt8} {p q : List UInt8}
    (h : frame_of letter p = frame_of letter q) : p = q := by
  simp only [frame_of, List.append_assoc] at h
  have h' := List.append_cancel_left h
  refine (List.append_inj' h' ?_).1
  simp [sum_digits]

/-- A frame without its first and last byte, as the receiver keeps it. -/
def body_of (letter : UInt8) (payload : List UInt8) : List UInt8 :=
  '@'.toUInt8 :: 'A'.toUInt8 :: letter ::
    (payload ++ sum_digits ('A'.toUInt8 :: letter :: payload) ++ ['*'.toUInt8])

section body
variable (letter : UInt8) (payload : List UInt8)

theorem frame_of_eq : frame_of letter payload = 0xff :: (body_of letter payload ++ [0x0D]) := by
  simp [frame_of, frame_header, body_of]

@[simp] theorem body_of_length : (body_of letter payload).length = payload.length + 6 := by
  simp [body_of, sum_digits]

/-- The end of the body satisfies the receiver's rule. -/
theorem body_of_checks : (body_of letter payload).getD (payload.length + 5) 0 = '*'.toUInt8 ∧
    (body_of letter payload).getD (payload.length + 3) 0 =
      number_hex (UInt8.ofNat (checksum (body_of letter payload) / 0x10)) ∧
    (body_of letter payload).getD (payload.length + 4) 0 =
      number_hex (UInt8.ofNat (checksum (body_of letter payload) % 0x10)) := by
  have hsum : checksum (body_of letter payload) =
      (('A'.toUInt8 :: letter :: payload).map UInt8.toNat).sum % 0x100 := by
    rw [checksum, body_of_length, body_of, List.drop_succ_cons, List.drop_zero, List.append_assoc,
      ← List.cons_append, ← List.cons_append, List.take_left' (by simp)]
  have hget : ∀ i, (body_of letter payload).getD (payload.length + (i + 3)) 0 =
      (payload ++ sum_digits ('A'.toUInt8 :: letter :: payload) ++ ['*'.toUInt8]).getD
        (payload.length + i) 0 := fun i => by
    rw [body_of, ← Nat.add_assoc]
    rfl
  rw [hsum, hget 2, hget 0, hget 1]
  refine ⟨?_, ?_, ?_⟩ <;> simp [sum_digits]

/-- The receiver's own rule accepts a frame, without its first and last byte. -/
theorem frame_of_check_ok :
    check_ok (fun i => (frame_of letter payload).getD (i + 1) 0) (payload.length + 6) = true := by
  have hread : ReadAs (fun i => (frame_of letter payload).getD (i + 1) 0)
      (body_of letter payload) := fun i hi => by
    show (frame_of letter payload).getD (i + 1) 0 = (body_of letter payload).getD i 0
    rw [frame_of_eq, List.getD_cons_succ, List.getD_eq_getElem?_getD,
      List.getElem?_append_left hi, ← List.getD_eq_getElem?_getD]
  rw [← body_of_length letter payload, check_ok_iff hread (by simp), body_of_length]
  exact body_of_checks letter payload

end body

section digits

theorem hex_digits_eq (len n : ℕ) :
    hex_digits len n = (digits 0x10 len n).map fun d => number_hex (UInt8.ofNat d) := by
  induction len generalizing n with
  | zero => rfl
  | succ len ih => simp [hex_digits, digits, ih]

@[simp] theorem hex_digits_length (len n : ℕ) : (hex_digits len n).length = len := by
  rw [hex_digits_eq, List.length_map, digits_length]

theorem number_hex_isHexChar {d : ℕ} (h : d < 0x10) : IsHexChar (number_hex (UInt8.ofNat d)) := by
  interval_cases d <;> decide

theorem hex_digits_isHexChar (len n : ℕ) : ∀ ch ∈ hex_digits len n, IsHexChar ch := by
  intro ch hch
  rw [hex_digits_eq] at hch
  obtain ⟨d, hd, rfl⟩ := List.mem_map.mp hch
  exact number_hex_isHexChar (digits_lt (by decide) len n d hd)

end digits

/-! ### The buffer -/

theorem writeAt_cons {l : List UInt8} {k : ℕ} (h : k < l.length) (b : UInt8) (bs : List UInt8) :
    writeAt l k (b :: bs) = writeAt (l.set k b) (k + 1) bs := by
  have htake : (l.set k b).take (k + 1) = l.take k ++ [b] := by
    rw [List.take_add_one, List.take_set_of_le le_rfl]
    simp [h]
  rw [writeAt, writeAt, htake, List.drop_set_of_lt (by omega), List.length_cons, List.append_assoc,
    List.append_assoc, List.append_assoc, Nat.add_assoc, Nat.add_comm bs.length 1]
  rfl

theorem put_toList (bs : List UInt8) (k : ℕ) (s : Uart) (h : k + bs.length ≤ 40) :
    (s.put k bs).fs_data.toList = writeAt s.fs_data.toList k bs := by
  induction bs generalizing k s with
  | nil => simp [put, writeAt]
  | cons b bs ih =>
      rw [List.length_cons] at h
      have hput : s.put k (b :: bs) =
          put { s with fs_data := s.fs_data.setIfInBounds k b } (k + 1) bs := by
        simp [put]
      rw [hput, ih (k + 1) _ (by omega), writeAt_cons (by simp; omega)]
      simp

/-- The buffer begins with `p`, `sent` has been sent before. -/
structure Begins (F_addr : UInt8) (sent : List (List UInt8)) (p : List UInt8) (s : Uart) : Prop where
  fs_data : s.fs_data.toList.take p.length = p
  sent : s.sent = sent
  F_addr : s.F_addr = F_addr

/-- The frame `p` has been sent. -/
structure Sent (F_addr : UInt8) (sent : List (List UInt8)) (p : List UInt8) (s : Uart) : Prop where
  sent : s.sent = p :: sent
  F_addr : s.F_addr = F_addr

theorem my_data_parsing_fs_data (s : Uart) : s.my_data_parsing.fs_data = s.fs_data ∧
    s.my_data_parsing.sent = s.sent ∧ s.my_data_parsing.F_addr = s.F_addr := by
  obtain ⟨data, flag, value, h⟩ := my_data_parsing_frame s
  rw [h]
  exact ⟨rfl, rfl, rfl⟩

/-- The other threads leave the send buffer alone. -/
theorem interference_fs_data {s s' : Uart} (h : Interference s s') :
    s'.fs_data = s.fs_data ∧ s'.sent = s.sent ∧ s'.F_addr = s.F_addr := by
  cases h with
  | data_parsing ch hp =>
      have hstore : ∀ {v : Uart}, (if (s.see ch).is_stored ch then (s.see ch).store ch
          else some (s.see ch)) = some v →
          v.fs_data = s.fs_data ∧ v.sent = s.sent ∧ v.F_addr = s.F_addr := by
        intro v hv
        unfold store at hv
        split_ifs at hv <;> cases hv <;> exact ⟨rfl, rfl, rfl⟩
      unfold data_parsing at hp
      by_cases hend : (s.see ch).data_end ≠ 0
      · rw [if_pos hend] at hp
        obtain ⟨v, hv, rfl⟩ := Option.map_eq_some_iff.mp hp
        obtain ⟨hd, hs, hF⟩ := hstore hv
        obtain ⟨hd', hs', hF'⟩ := my_data_parsing_fs_data v
        split_ifs
        · exact ⟨hd'.trans hd, hs'.trans hs, hF'.trans hF⟩
        · exact ⟨hd, hs, hF⟩
      · rw [if_neg hend] at hp
        cases hp
        exact ⟨rfl, rfl, rfl⟩
  | data_timeout_parsing =>
      obtain ⟨flag, timeot, h, -⟩ := data_timeout_parsing_frame s
      rw [h]
      exact ⟨rfl, rfl, rfl⟩

section begins
variable {F_addr : UInt8} {sent : List (List UInt8)} {p : List UInt8} {s : Uart}

theorem holds_begins (F_addr : UInt8) (sent : List (List UInt8)) (p : List UInt8) :
    Holds Interference (fun _ => True) (Begins F_addr sent p) := by
  refine ⟨fun s s' h he => ?_, fun _ _ => trivial⟩
  obtain ⟨hd, hs, hF⟩ := interference_fs_data he
  exact ⟨hd ▸ h.fs_data, hs.trans h.sent, hF.trans h.F_addr⟩

theorem holds_sent (F_addr : UInt8) (sent : List (List UInt8)) (p : List UInt8) :
    Holds Interference (fun _ => True) (Sent F_addr sent p) := by
  refine ⟨fun s s' h he => ?_, fun _ _ => trivial⟩
  obtain ⟨-, hs, hF⟩ := interference_fs_data he
  exact ⟨hs.trans h.sent, hF.trans h.F_addr⟩

theorem Begins.put (h : Begins F_addr sent p s) {bs : List UInt8} (hlen : p.length + bs.length ≤ 40) :
    Begins F_addr sent (p ++ bs) (s.put p.length bs) := by
  refine ⟨?_, h.sent, h.F_addr⟩
  rw [put_toList bs p.length s hlen, writeAt, h.fs_data, List.take_left' rfl]

/-- The sum over everything behind the first two bytes. -/
theorem Begins.check_digits (h : Begins F_addr sent p s) (n : ℕ) (hn : p.length = n + 2) :
    s.check_digits n = sum_digits (p.drop 2) := by
  have hlen : p.length ≤ 40 := by
    have := congrArg List.length h.fs_data
    rw [List.length_take, Vector.length_toList] at this
    omega
  have hp : p = s.fs_data.toList.take (n + 2) := hn ▸ h.fs_data.symm
  have hpart : p.drop 2 = (List.range n).map fun i => s.fs_data.toList.getD (2 + i) 0 := by
    rw [← take_drop_eq_map _ (by rw [Vector.length_toList]; omega), hp, List.drop_take,
      Nat.add_sub_cancel]
  rw [Uart.check_digits, foldl_add_mod, sum_digits, hpart, List.map_map]
  rfl

theorem Begins.device_write (h : Begins F_addr sent p s) :
    Sent F_addr sent p (s.device_write p.length) :=
  ⟨by rw [Uart.device_write, h.fs_data, h.sent], h.F_addr⟩

end begins

/-! ### The issue functions -/

section issue
variable {F_addr : UInt8} {sent : List (List UInt8)} {p : List UInt8}

/-- Statements that touch neither the buffer nor what has been sent. -/
theorem begins_act {f : Uart → Uart}
    (hf : ∀ s, (f s).fs_data = s.fs_data ∧ (f s).sent = s.sent ∧ (f s).F_addr = s.F_addr) :
    Triple Interference (fun _ => True) (Begins F_addr sent p) (.act f) (Begins F_addr sent p) :=
  .act (holds_begins _ _ _) (holds_begins _ _ _) fun s h =>
    ⟨(hf s).1 ▸ h.fs_data, (hf s).2.1.trans h.sent, (hf s).2.2.trans h.F_addr⟩

theorem sent_act {f : Uart → Uart} (hf : ∀ s, (f s).sent = s.sent ∧ (f s).F_addr = s.F_addr) :
    Triple Interference (fun _ => True) (Sent F_addr sent p) (.act f) (Sent F_addr sent p) :=
  .act (holds_sent _ _ _) (holds_sent _ _ _) fun s h =>
    ⟨(hf s).1.trans h.sent, (hf s).2.trans h.F_addr⟩

/-- The buffer is continued. -/
theorem begins_put {k : ℕ} {f : Uart → List UInt8} (bs : List UInt8) (hk : k = p.length)
    (hlen : k + bs.length ≤ 40) (hf : ∀ s, Begins F_addr sent p s → f s = bs) :
    Triple Interference (fun _ => True) (Begins F_addr sent p) (.act fun s => s.put k (f s))
      (Begins F_addr sent (p ++ bs)) := by
  subst hk
  exact .act (holds_begins _ _ _) (holds_begins _ _ _) fun s h => by
    rw [hf s h]
    exact h.put hlen

theorem begins_write {k : ℕ} (hk : k = p.length) :
    Triple Interference (fun _ => True) (Begins F_addr sent p) (.act fun s => s.device_write k)
      (Sent F_addr sent p) := by
  subst hk
  exact .act (holds_begins _ _ _) (holds_sent _ _ _) fun s h => h.device_write

theorem my_uart_SetData_sent (flag : Fin 3) (zf_list : List UInt8) {len : ℕ} (h1 : 1 ≤ len)
    (h33 : len ≤ 33) :
    Triple Interference (fun _ => True) (Begins F_addr sent []) (my_uart_SetData flag zf_list len)
      (Sent F_addr sent (frame_of MS_Set_Command[flag]
        (hex_digits (len - 1) (list_number flag zf_list len)))) := by
  have hhex := hex_digits_length (len - 1) (list_number flag zf_list len)
  have hp : (frame_header MS_Set_Command[flag] ++
      hex_digits (len - 1) (list_number flag zf_list len)).length = len + 3 := by
    simp [frame_header]
    omega
  have hsum : ∀ bs, (sum_digits bs).length = 2 := fun _ => rfl
  refine .block_cons (begins_act fun s => ⟨rfl, rfl, rfl⟩) <|
    .block_cons (begins_put (frame_header MS_Set_Command[flag]) rfl (by simp [frame_header])
      fun _ _ => rfl) <|
    .block_cons (begins_act fun s => ⟨rfl, rfl, rfl⟩) <|
    .block_cons (begins_put (hex_digits (len - 1) (list_number flag zf_list len)) rfl (by omega)
      fun _ _ => rfl) <|
    .block_cons (begins_put (sum_digits ('A'.toUInt8 :: MS_Set_Command[flag] ::
      hex_digits (len - 1) (list_number flag zf_list len))) hp.symm (by rw [hsum]; omega)
      fun s h => h.check_digits (len + 1) hp) <|
    .block_cons (begins_put ['*'.toUInt8, 0x0D] ?_ (by simp; omega) fun _ _ => rfl) <|
    .block_cons (begins_write ?_) <|
    .block_cons (sent_act fun s => ⟨rfl, rfl⟩) <| .block_cons (sent_act fun s => ⟨rfl, rfl⟩) <|
    .block_cons (sent_act fun s => ⟨rfl, rfl⟩) <|
    .block_last (holds_sent _ _ _) (sent_act fun s => ⟨rfl, rfl⟩)
  · rw [List.length_append, List.nil_append, hp, hsum]
  · rw [List.length_append, List.length_append, List.nil_append, hp, hsum]
    rfl

theorem ms_open_valve_sent :
    Triple Interference (fun _ => True) (Begins F_addr sent []) ms_open_valve
      (Sent F_addr sent (frame_of 'R'.toUInt8 ('0'.toUInt8 :: List.replicate 24 F_addr))) := by
  refine .block_cons (begins_act fun s => ⟨rfl, rfl, rfl⟩) <|
    .block_cons (begins_put (frame_header 'R'.toUInt8) rfl (by decide) fun _ _ => rfl) <|
    .block_cons (begins_act fun s => ⟨rfl, rfl, rfl⟩) <|
    .block_cons (begins_put ['0'.toUInt8] rfl (by decide) fun _ _ => rfl) <|
    .block_cons (begins_put (List.replicate 24 F_addr) rfl (by simp) fun s h => by rw [h.F_addr]) <|
    .block_cons (begins_put (sum_digits ('A'.toUInt8 :: 'R'.toUInt8 :: '0'.toUInt8 ::
      List.replicate 24 F_addr)) rfl (by simp [sum_digits]) fun s h => h.check_digits 27 rfl) <|
    .block_cons (begins_put ['*'.toUInt8, 0x0D] rfl (by decide) fun _ _ => rfl) <|
    .block_cons (begins_act fun s => ⟨rfl, rfl, rfl⟩) <|
    .block_cons (begins_act fun s => ⟨rfl, rfl, rfl⟩) <|
    .block_cons (begins_act fun s => ⟨rfl, rfl, rfl⟩) <|
    .block_cons (begins_act fun s => ⟨rfl, rfl, rfl⟩) <|
    .block_last (holds_sent _ _ _) (begins_write rfl)

/-- The end of a short frame is there before its check digits. -/
structure Closed (F_addr : UInt8) (sent : List (List UInt8)) (p : List UInt8) (s : Uart) :
    Prop extends Begins F_addr sent p s where
  ending : (s.fs_data.toList.drop 6).take 2 = ['*'.toUInt8, 0x0D]

theorem holds_closed (p : List UInt8) :
    Holds Interference (fun _ => True) (Closed F_addr sent p) :=
  ⟨fun s s' h he => ⟨(holds_begins _ _ _).stable s s' h.toBegins he,
    (interference_fs_data he).1 ▸ h.ending⟩, fun _ _ => trivial⟩

theorem Begins.close {s : Uart} (hp : p.length = 4) (h : Begins F_addr sent p s) :
    Closed F_addr sent p (s.put 6 ['*'.toUInt8, 0x0D]) := by
  have hl := put_toList ['*'.toUInt8, 0x0D] 6 s (by decide)
  have hlen : s.fs_data.toList.length = 40 := Vector.length_toList
  refine ⟨⟨?_, h.sent, h.F_addr⟩, ?_⟩
  · rw [hl, writeAt, List.append_assoc, List.take_append_of_le_length (by simp; omega),
      List.take_take, min_eq_left (by omega), h.fs_data]
  · rw [hl, writeAt, List.append_assoc, List.drop_left' (by simp)]
    rfl

theorem Closed.check {s : Uart} (hp : p.length = 4) (h : Closed F_addr sent p s) :
    Begins F_addr sent (p ++ sum_digits (p.drop 2) ++ ['*'.toUInt8, 0x0D])
      (s.put 4 (s.check_digits 2)) := by
  have hsum : s.check_digits 2 = sum_digits (p.drop 2) := h.check_digits 2 (by omega)
  have hfront := h.fs_data
  rw [hp] at hfront
  refine ⟨?_, h.sent, h.F_addr⟩
  have hlen : (p ++ sum_digits (p.drop 2) ++ ['*'.toUInt8, 0x0D]).length =
      (p ++ sum_digits (p.drop 2)).length + 2 := by simp [Nat.add_assoc]
  rw [hsum, put_toList _ 4 s (by simp [sum_digits]), writeAt, hfront, hlen,
    List.take_length_add_append]
  exact congrArg (p ++ sum_digits (p.drop 2) ++ ·) h.ending

theorem my_uart_GetData_sent (flag : Fin 3) (choose : ℕ) :
    Triple Interference (fun _ => True) (Begins F_addr sent []) (my_uart_GetData flag choose)
      (Sent F_addr sent (frame_of (getElem MS_Get_Command flag (command_lt flag)) [])) := by
  refine .block_cons (begins_act fun s => ⟨rfl, rfl, rfl⟩) <|
    .block_cons (begins_put (frame_header MS_Get_Command[flag]) rfl (by simp [frame_header])
      fun _ _ => rfl) <|
    .block_cons (begins_act fun s => ⟨rfl, rfl, rfl⟩) <|
    .block_cons (.act (holds_begins _ _ _) (holds_closed _) fun s h => h.close rfl) <|
    .block_cons (.act (holds_closed _) (holds_begins _ _ _) fun s h => h.check rfl) <|
    .block_cons (begins_act fun s => ⟨rfl, rfl, rfl⟩) <|
    .block_cons (begins_act fun s => ⟨rfl, rfl, rfl⟩) <|
    .block_cons (begins_act fun s => ⟨rfl, rfl, rfl⟩) <|
    .block_cons (begins_act fun s => ⟨rfl, rfl, rfl⟩) <|
    .block_last (holds_sent _ _ _) (begins_write rfl)

end issue

/-- The commands that `main.c` issues: the buffer has room for their frames. -/
def Command.Fits : Command → Prop
  | .SetData _ _ len => 1 ≤ len ∧ len ≤ 33
  | _ => True

/-- The payload of a command. -/
def Command.payload (F_addr : UInt8) : Command → List UInt8
  | .SetData flag zf_list len => hex_digits (len - 1) (list_number flag zf_list len)
  | .GetData _ _ => []
  | .open_valve => '0'.toUInt8 :: List.replicate 24 F_addr

theorem issue_sent (c : Command) (hc : c.Fits) (F_addr : UInt8) (sent : List (List UInt8)) :
    Triple Interference (fun _ => True) (Begins F_addr sent []) c.issue
      (Sent F_addr sent (frame_of c.letter (c.payload F_addr))) := by
  cases c with
  | SetData flag zf_list len => exact my_uart_SetData_sent flag zf_list hc.1 hc.2
  | GetData flag choose => exact my_uart_GetData_sent flag choose
  | open_valve => exact ms_open_valve_sent

/-- **Transmitted commands**: whatever is in the buffer and whatever the other threads do meanwhile,
one frame is sent for a command, and it is well formed exactly if the command is not
`ms_open_valve` or the address of the literal happens to be the code of a hexadecimal digit. -/
theorem sent_wellFormed_iff (c : Command) (hc : c.Fits) {s s' : Uart}
    (h : Reach Interference c.issue s .skip s') : ∃ bytes, s'.sent = bytes :: s.sent ∧
      (WellFormed c.letter bytes ↔ (c = .open_valve → IsHexChar s.F_addr)) := by
  have hsent := (issue_sent c hc s.F_addr s.sent s ⟨by simp, rfl, rfl⟩ .skip s' h).2 rfl
  refine ⟨_, hsent.sent, ?_, ?_⟩
  · rintro ⟨payload, hhex, heq⟩ rfl
    rw [← frame_of_injective heq] at hhex
    exact hhex s.F_addr (by simp [Command.payload])
  · intro hF
    refine ⟨_, fun ch hch => ?_, rfl⟩
    cases c with
    | SetData flag zf_list len => exact hex_digits_isHexChar _ _ ch hch
    | GetData flag choose => cases hch
    | open_valve =>
        rcases List.mem_cons.mp hch with rfl | hch
        · decide
        · rw [List.eq_of_mem_replicate hch]
          exact hF rfl

/-- The serial `000012` of a fresh tester. -/
theorem sent_wellFormed_iff_set : ∃ s', (my_uart_SetData 0 [6, 100, 100, 100, 100, 101, 102] 6).exec 0
      (Uart.start id 0x2c) = some s' ∧ ∃ bytes, s'.sent = [bytes] ∧
    (WellFormed 'A'.toUInt8 bytes ↔
      (Command.SetData 0 [6, 100, 100, 100, 100, 101, 102] 6 = .open_valve →
        IsHexChar (Uart.start id 0x2c).F_addr)) := by
  obtain ⟨s', hs⟩ : ∃ s', (my_uart_SetData 0 [6, 100, 100, 100, 100, 101, 102] 6).exec 0
      (Uart.start id 0x2c) = some s' := ⟨_, rfl⟩
  exact ⟨s', hs, sent_wellFormed_iff (.SetData 0 [6, 100, 100, 100, 100, 101, 102] 6)
    ⟨by decide, by decide⟩ (exec_reach hs)⟩

/-- The literal lies at an address that ends in `2C`: the payload of `ms_open_valve` is `0` and 24
commas. -/
theorem not_wellFormed_open_valve :
    ¬ ∀ c : Command, c.Fits → ∀ s s', Reach Interference c.issue s .skip s' →
      ∃ bytes, s'.sent = bytes :: s.sent ∧ WellFormed c.letter bytes := by
  intro h
  obtain ⟨s', hs⟩ : ∃ s', ms_open_valve.exec 0 (Uart.start id 0x2c) = some s' := ⟨_, rfl⟩
  have hreach : Reach Interference ms_open_valve (Uart.start id 0x2c) .skip s' := exec_reach hs
  have hbegins : Begins 0x2c [] [] (Uart.start id 0x2c) := ⟨rfl, rfl, rfl⟩
  have hsent := (ms_open_valve_sent _ hbegins _ s' hreach).2 rfl
  obtain ⟨bytes, hbytes, payload, hhex, heq⟩ := h .open_valve trivial _ s' hreach
  have hpayload : frame_of 'R'.toUInt8 ('0'.toUInt8 :: List.replicate 24 0x2c) =
      frame_of 'R'.toUInt8 payload := by
    rw [hsent.sent] at hbytes
    exact (List.cons.inj hbytes).1.trans heq
  rw [← frame_of_injective hpayload] at hhex
  exact absurd (hhex 0x2c (by simp)) (by decide)

end MeterTester
