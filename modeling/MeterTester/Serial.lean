import MeterTester.Handover
import MeterTester.SerialFile

/-! # No serial is issued twice

A test that passes appends a record with the serial of its mode (`passes`), and sixty turns later
the digits of the mode are incremented and written to `/MS_MSID.txt`.  Until they are, the history
is `unsaved`: a reset starts the tester over from the file, with the serial that has been issued.

`reset_reissues` is such a run.  `passes_nodup`: if no reset strikes an unsaved history and the user
edits no digits of a serial, then whatever else happens, in any order, the serials that one mode
has issued are pairwise different until there are no more of them.

The assertions between the statements relate the history, the file and the lists: the serials of
the passes count down from the number in the file (`Numeral.CountsDown`), which is the next one
(`Next`) or, from the record to the writing of the digits, the last one (`Issued`). -/

namespace MeterTester

open Interleave Interleave.Prog World Dfs Numeral

/-! ### Histories -/

/-- The record of a pass: the character behind the serial and a blank is `0`. -/
def is_pass (choose : ℕ) (record : List UInt8) : Bool :=
  record.getD (serial_len choose + 1) 0 = chr '0'

/-- The serials of the passes of the mode `c`, newest first. -/
def passes (c : ℕ) : List Event → List (List UInt8)
  | [] => []
  | .set_record choose record :: log =>
      if choose = c ∧ is_pass c record then record.take (serial_len c) :: passes c log
      else passes c log
  | _ :: log => passes c log

/-- A pass has been recorded, and the digits have not been written since. -/
def unsaved : List Event → Bool
  | [] => false
  | .set_record choose record :: log => is_pass choose record || unsaved log
  | .set_MSID _ :: _ => false
  | _ :: log => unsaved log

/-- In some turn of the settings a digit key met the cursor in the serial. -/
def edited : List Event → Bool
  | [] => false
  | .switch MS button_number choose_number _ :: log =>
      (MS = 2 ∧ button_number < 10 ∧ choose_number < 10) || edited log
  | _ :: log => edited log

/-- A reset, in a state in which one may strike: the image is started over the same files. -/
inductive Reset (mayStrike : World → Prop) : World → World → Prop
  | reset {w : World} (devices : ℕ → Device) :
      mayStrike w → Reset mayStrike w (World.start w.dfs.fs devices w.log)

/-- The tester is switched on for the first time, over files that work. -/
def SwitchedOn (w : World) : Prop :=
  ∃ fs devices, fs.Works ∧ w = World.start fs devices []

/-- Packets that may come at any time. -/
def AnyPacket : World → ℤ → List UInt8 → ℕ → Prop := fun _ _ _ _ => True

/-- An event that does not concern the serials. -/
def Event.IsForeign : Event → Prop
  | .set_record _ _ | .set_MSID _ => False
  | _ => True

theorem Event.IsMinor.isForeign {e : Event} (h : e.IsMinor) : e.IsForeign := by
  cases e <;> first | exact h | trivial

section history
variable {e : Event} (log : List Event)

theorem passes_foreign (h : e.IsForeign) (c : ℕ) : passes c (e :: log) = passes c log := by
  cases e <;> first | exact h.elim | rfl

theorem unsaved_foreign (h : e.IsForeign) : unsaved (e :: log) = unsaved log := by
  cases e <;> first | exact h.elim | rfl

theorem edited_cons (h : edited log = true) : edited (e :: log) = true := by
  cases e <;> simp [edited, h]

end history

/-! ### The history and the file -/

/-- The mode's digits in the file, as a record shows them. -/
def World.filed (w : World) (c : ℕ) : List UInt8 :=
  serial c (read_MSID (w.dfs.fs.content .MS_MSID))

/-- The passes of the mode count down from `n`. -/
def Counted (c n : ℕ) (w : World) : Prop :=
  CountsDown (dec_digits (serial_len c)) (10 ^ serial_len c) n (passes c w.log)

/-- The file holds the next serial of the mode. -/
def Next (c : ℕ) (w : World) : Prop :=
  ∃ n, w.filed c = dec_digits (serial_len c) n ∧ Counted c (n + (10 ^ serial_len c - 1)) w

/-- The file holds the serial `n`, which the mode has issued last. -/
structure Issued (c n : ℕ) (w : World) : Prop where
  filed : w.filed c = dec_digits (serial_len c) n
  counted : Counted c n w

/-- The invariant of every moment. -/
structure Unrepeated (w : World) : Prop where
  works : w.dfs.fs.Works
  file : ∀ c < 3, Next c w ∨ (unsaved w.log = true ∧ ∃ n, Issued c n w)

theorem Unrepeated.nodup {w : World} (h : Unrepeated w) {c : ℕ} (hc : c < 3)
    (hcount : (passes c w.log).length < 10 ^ serial_len c) : (passes c w.log).Nodup := by
  rcases h.file c hc with ⟨n, -, hn⟩ | ⟨-, n, hn⟩
  · exact CountsDown.nodup (dec_digits_eq_iff _) hn hcount.le
  · exact CountsDown.nodup (dec_digits_eq_iff _) hn.counted hcount.le

/-- The record of a pass with the serial that was next. -/
theorem Next.issued {c : ℕ} {w w' : World} (h : Next c w) (hfiled : w'.filed c = w.filed c)
    (hlog : passes c w'.log = w.filed c :: passes c w.log) : ∃ n, Issued c n w' := by
  obtain ⟨n, hf, hn⟩ := h
  refine ⟨n, hfiled.trans hf, ?_⟩
  rw [Counted, hlog, hf]
  exact ⟨rfl, hn⟩

/-- The number behind the issued one is filed. -/
theorem Issued.next {c n : ℕ} {w w' : World} (h : Issued c n w)
    (hfiled : w'.filed c = dec_digits (serial_len c) (n + 1))
    (hlog : passes c w'.log = passes c w.log) : Next c w' := by
  refine ⟨n + 1, hfiled, ?_⟩
  rw [Counted, hlog]
  refine CountsDown.congr (dec_digits_eq_iff _) ?_ h.counted
  have hpos : 0 < 10 ^ serial_len c := by positivity
  rw [show n + 1 + (10 ^ serial_len c - 1) = n + 10 ^ serial_len c by omega]
  exact (Nat.add_modEq_right).symm

/-! ### Statements that leave the serials alone -/

/-- Neither the file nor the history of the serials changes. -/
structure Neutral (w w' : World) : Prop where
  MS_MSID : w'.dfs.fs.content .MS_MSID = w.dfs.fs.content .MS_MSID
  openOk : w'.dfs.fs.openOk = w.dfs.fs.openOk
  log : w'.log = w.log ∨ ∃ e : Event, e.IsForeign ∧ w'.log = e :: w.log

/-- The lists do not change either. -/
structure Spares (w w' : World) : Prop extends Neutral w w' where
  zf_list6 : w'.zf_list6 = w.zf_list6

/-- The state does not become the one behind a pass either. -/
structure Rests (w w' : World) : Prop extends Spares w w' where
  MS : w'.MS = w.MS ∨ w'.MS ≠ 5

/-- What a packet may change. -/
structure Received (w w' : World) : Prop extends Rests w w' where
  MS_away : w.MS ≠ 11 → w'.MS = w.MS
  statics : ∃ r MS log, w' = { w with radio := r, MS := MS, log := log }

section neutral
variable {w w' : World} (h : Neutral w w')
include h

theorem Neutral.filed (c : ℕ) : w'.filed c = w.filed c := by
  rw [World.filed, World.filed, h.MS_MSID]

theorem Neutral.passes (c : ℕ) : passes c w'.log = passes c w.log := by
  rcases h.log with hl | ⟨e, he, hl⟩
  · rw [hl]
  · rw [hl, passes_foreign _ he]

theorem Neutral.unsaved : unsaved w'.log = unsaved w.log := by
  rcases h.log with hl | ⟨e, he, hl⟩
  · rw [hl]
  · rw [hl, unsaved_foreign _ he]

theorem Neutral.counted {c n : ℕ} (hn : Counted c n w) : Counted c n w' := by
  rw [Counted, h.passes]
  exact hn

theorem Neutral.next {c : ℕ} (hn : Next c w) : Next c w' := by
  obtain ⟨n, hf, hn⟩ := hn
  exact ⟨n, (h.filed c).trans hf, h.counted hn⟩

theorem Neutral.issued {c n : ℕ} (hn : Issued c n w) : Issued c n w' :=
  ⟨(h.filed c).trans hn.filed, h.counted hn.counted⟩

end neutral

theorem neutral_plain {w w' : World}
    (h : w'.dfs = w.dfs ∧ w'.log = w.log := by exact ⟨rfl, rfl⟩) : Neutral w w' :=
  ⟨by rw [h.1], by rw [h.1], .inl h.2⟩

theorem Spares.digits {w w' : World} (h : Spares w w') : w'.digits = w.digits := by
  rw [World.digits, World.digits, h.zf_list6]

theorem Aside.spares {w w' : World} (h : Aside w w') : Spares w w' :=
  ⟨⟨h.MS_MSID, h.openOk, h.log.imp_right fun ⟨e, he, hl⟩ => ⟨e, he.isForeign, hl⟩⟩, h.zf_list6⟩

theorem Looks.rests {w w' : World} (h : Looks w w') : Rests w w' := ⟨h.toAside.spares, .inl h.MS⟩

theorem Plain.rests {w w' : World} (h : Plain w w') : Rests w w' :=
  ⟨h.toAside.spares, h.MS.imp_right fun hM => by
    simp only [List.mem_cons, List.not_mem_nil, or_false] at hM
    omega⟩

theorem Browses.rests {w w' : World} (h : Browses w w') : Rests w w' := by
  refine ⟨⟨⟨h.MS_MSID, h.openOk, h.log.imp_right ?_⟩, h.zf_list6⟩, ?_⟩
  · rintro ⟨e, he | ⟨t, bs, rfl⟩, hl⟩
    · exact ⟨e, he.isForeign, hl⟩
    · exact ⟨.set_ax_record t bs, trivial, hl⟩
  · rcases h.MS with hM | hM | hM
    · exact .inl hM
    · exact .inr (by omega)
    · exact .inr (by omega)

theorem received_of_radio {w w' : World} (h : RadioTask AnyPacket w w') : Received w w' := by
  cases h with
  | @rx rssi rx_buffer rx_len _ =>
      rcases radio_cases w rssi rx_buffer rx_len with ⟨hM, -, r, heq⟩ | ⟨-, r, heq, -⟩ <;> rw [heq]
      · exact ⟨⟨⟨⟨rfl, rfl, .inr ⟨.handover r, trivial, rfl⟩⟩, rfl⟩, .inr (by decide : (12 : ℕ) ≠ 5)⟩,
          fun hne => absurd hM hne, r, 12, _, rfl⟩
      · exact ⟨⟨⟨⟨rfl, rfl, .inl rfl⟩, rfl⟩, .inl rfl⟩, fun _ => rfl, r, w.MS, w.log, rfl⟩

/-! ### Assertions -/

/-- Every mode's next serial is in the file. -/
structure Upcoming (w : World) : Prop where
  works : w.dfs.fs.Works
  next : ∀ c < 3, Next c w

/-- The lists agree with the file. -/
structure Saved (w : World) : Prop extends Upcoming w where
  long : 20 ≤ (w.dfs.fs.content .MS_MSID).length
  digits : w.digits = read_MSID (w.dfs.fs.content .MS_MSID)

/-- Away from the state behind a pass. -/
structure Away (w : World) : Prop extends Saved w where
  MS : w.MS ≠ 5

/-- The serial `n` of the mode `c` has been issued, and its digits have not been written since. -/
structure Unstored (c n : ℕ) (w : World) : Prop where
  works : w.dfs.fs.Works
  long : 20 ≤ (w.dfs.fs.content .MS_MSID).length
  mode : c < 3
  MS : w.MS = 5
  unsaved : unsaved w.log = true
  issued : Issued c n w
  others : ∀ c' < 3, c' ≠ c → Next c' w

/-- Behind a pass, before the digits are incremented. -/
structure Pending (w : World) : Prop where
  unstored : ∃ n, Unstored w.choose n w
  digits : w.digits = read_MSID (w.dfs.fs.content .MS_MSID)

/-- Between two turns. -/
def Between (w : World) : Prop := (Upcoming w ∧ w.MS = 0) ∨ Away w ∨ Pending w

section stable
variable {w w' : World}

theorem Upcoming.unrepeated (h : Upcoming w) : Unrepeated w := ⟨h.works, fun c hc => .inl (h.next c hc)⟩

theorem Unstored.unrepeated {c n : ℕ} (h : Unstored c n w) : Unrepeated w := by
  refine ⟨h.works, fun c' hc' => ?_⟩
  by_cases hcc : c' = c
  · exact .inr ⟨h.unsaved, n, hcc ▸ h.issued⟩
  · exact .inl (h.others c' hc' hcc)

theorem Neutral.upcoming (h : Neutral w w') (hw : Upcoming w) : Upcoming w' :=
  ⟨hw.works.of_openOk h.openOk, fun c hc => h.next (hw.next c hc)⟩

theorem Spares.saved (h : Spares w w') (hw : Saved w) : Saved w' :=
  ⟨h.upcoming hw.toUpcoming, by rw [h.MS_MSID]; exact hw.long, by
    rw [h.MS_MSID, h.digits]; exact hw.digits⟩

theorem Rests.away (h : Rests w w') (hw : Away w) : Away w' :=
  ⟨h.saved hw.toSaved, by
    rcases h.MS with hM | hM
    · rw [hM]
      exact hw.MS
    · exact hM⟩

theorem Neutral.unstored {c n : ℕ} (h : Neutral w w') (hM : w'.MS = w.MS) (hw : Unstored c n w) :
    Unstored c n w' :=
  ⟨hw.works.of_openOk h.openOk, by rw [h.MS_MSID]; exact hw.long, hw.mode, hM.trans hw.MS,
    h.unsaved.trans hw.unsaved, h.issued hw.issued, fun c' hc' hne => h.next (hw.others c' hc' hne)⟩

theorem Spares.pending (h : Spares w w') (hM : w'.MS = w.MS) (hc : w'.choose = w.choose)
    (hw : Pending w) : Pending w' := by
  obtain ⟨n, hn⟩ := hw.unstored
  exact ⟨⟨n, hc ▸ h.unstored hM hn⟩, by rw [h.MS_MSID, h.digits]; exact hw.digits⟩

theorem Upcoming.plain (hw : Upcoming w)
    (h : w'.dfs = w.dfs ∧ w'.log = w.log := by exact ⟨rfl, rfl⟩) : Upcoming w' :=
  (neutral_plain h).upcoming hw

theorem Unstored.plain {c n : ℕ} (hw : Unstored c n w) (hM : w'.MS = w.MS := by rfl)
    (h : w'.dfs = w.dfs ∧ w'.log = w.log := by exact ⟨rfl, rfl⟩) : Unstored c n w' :=
  (neutral_plain h).unstored hM hw

theorem Pending.unrepeated (h : Pending w) : Unrepeated w := by
  obtain ⟨n, hn⟩ := h.unstored
  exact hn.unrepeated

theorem Pending.MS (h : Pending w) : w.MS = 5 := by
  obtain ⟨n, hn⟩ := h.unstored
  exact hn.MS

theorem Between.unrepeated (h : Between w) : Unrepeated w := by
  rcases h with ⟨h, -⟩ | h | h
  · exact h.unrepeated
  · exact h.toSaved.toUpcoming.unrepeated
  · exact h.unrepeated

end stable

/-- An assertion holds up if no packet breaks it. -/
theorem holds_of {P : World → Prop} (hs : ∀ w w', Received w w' → P w → P w')
    (hk : ∀ w, P w → Unrepeated w) : Holds (RadioTask AnyPacket) Unrepeated P :=
  ⟨fun w w' h he => hs w w' (received_of_radio he) h, hk⟩

theorem holds_saved : Holds (RadioTask AnyPacket) Unrepeated Saved :=
  holds_of (fun _ _ h => h.saved) fun _ h => h.toUpcoming.unrepeated

/-- A packet does not move the mode but from the log. -/
theorem holds_upcoming {k : ℕ} (hk : k ≠ 11) :
    Holds (RadioTask AnyPacket) Unrepeated fun w => Upcoming w ∧ w.MS = k := by
  refine holds_of (fun w w' h hw => ⟨h.upcoming hw.1, ?_⟩) fun _ h => h.1.unrepeated
  rw [← hw.2]
  apply h.MS_away
  rw [hw.2]
  exact hk

theorem holds_away : Holds (RadioTask AnyPacket) Unrepeated Away :=
  holds_of (fun _ _ h => h.away) fun _ h => h.toSaved.toUpcoming.unrepeated

theorem Received.pending {w w' : World} (h : Received w w') (hw : Pending w) : Pending w' := by
  obtain ⟨r, M, log, heq⟩ := h.statics
  refine h.toSpares.pending (h.MS_away (by rw [hw.MS]; decide)) ?_ hw
  rw [heq]

theorem holds_pending : Holds (RadioTask AnyPacket) Unrepeated Pending :=
  holds_of (fun _ _ h => h.pending) fun _ h => h.unrepeated

theorem holds_between : Holds (RadioTask AnyPacket) Unrepeated Between := by
  refine holds_of (fun w w' h hw => ?_) fun _ h => h.unrepeated
  rcases hw with ⟨hw, hM⟩ | hw | hw
  · exact .inl ⟨h.upcoming hw, (h.MS_away (by omega)).trans hM⟩
  · exact .inr (.inl (h.away hw))
  · exact .inr (.inr (h.pending hw))

/-- The functions that have nothing to do with the serials. -/
theorem rests_triple {p : Prog World} (h : p.All Rests) :
    Triple (RadioTask AnyPacket) Unrepeated Away p Away :=
  .of_keeps holds_away (h.keeps fun _ _ hr hw => hr.away hw)

theorem plain_triple {p : Prog World} (h : p.All Plain) :
    Triple (RadioTask AnyPacket) Unrepeated Away p Away := rests_triple (h.mono fun _ _ => Plain.rests)

/-! ### State `0` -/

/-- The digits of the file are in `MSID`. -/
structure Loaded (w : World) : Prop extends Upcoming w where
  long : 20 ≤ (w.dfs.fs.content .MS_MSID).length
  MSID : w.MSID.toList = read_MSID (w.dfs.fs.content .MS_MSID)
  MS : w.MS = 1

theorem holds_loaded : Holds (RadioTask AnyPacket) Unrepeated Loaded := by
  refine holds_of (fun w w' h hw => ?_) fun _ h => h.toUpcoming.unrepeated
  refine ⟨h.upcoming hw.toUpcoming, by rw [h.MS_MSID]; exact hw.long, ?_,
    (h.MS_away (by rw [hw.MS]; decide)).trans hw.MS⟩
  obtain ⟨r, M, log, heq⟩ := h.statics
  rw [h.MS_MSID, ← hw.MSID, heq]

/-- A row of the lists is a part of `MSID`. -/
theorem store_MSID_cells (w : World) (r len first : ℕ)
    (h : (r, len, first) ∈ [(0, 6, 0), (1, 8, 6), (2, 6, 14)]) :
    (cells ((store_MSID w).zf_list6 r) len).map (· - 100) =
      (w.MSID.toList.drop first).take len := by
  simp only [List.mem_cons, List.not_mem_nil, or_false, Prod.mk.injEq] at h
  rw [cells_eq_range _ (by omega), List.map_map]
  apply List.ext_getElem (by simp; omega)
  intro i h₁ _
  have hi : i < len := by simpa using h₁
  rcases h with ⟨rfl, rfl, rfl⟩ | ⟨rfl, rfl, rfl⟩ | ⟨rfl, rfl, rfl⟩
  · simp [store_MSID, show i + 1 < 10 by omega, show i < 20 by omega, hi]
  · simp [store_MSID, show i + 1 < 10 by omega, show i + 6 < 20 by omega, Nat.add_comm 6 i, hi]
  · simp [store_MSID, show i + 1 < 10 by omega, show i + 14 < 20 by omega, Nat.add_comm 14 i, hi]

theorem store_MSID_digits (w : World) : (store_MSID w).digits = w.MSID.toList := by
  have hdrop : (w.MSID.toList.drop 14).take 6 = w.MSID.toList.drop 14 :=
    List.take_of_length_le (by simp)
  have hlast : (w.MSID.toList.drop 6).take 8 ++ w.MSID.toList.drop 14 = w.MSID.toList.drop 6 := by
    rw [← List.drop_drop (i := 8) (j := 6), List.take_append_drop]
  rw [World.digits, MSID_bytes, List.map_append, List.map_append,
    store_MSID_cells w 0 6 0 (by simp), store_MSID_cells w 1 8 6 (by simp),
    store_MSID_cells w 2 6 14 (by simp), hdrop, List.append_assoc, hlast]
  exact List.take_append_drop 6 _

theorem MS_thread_init_triple :
    Triple (RadioTask AnyPacket) Unrepeated (fun w => Upcoming w ∧ w.MS = 0) MS_thread_init Away := by
  have hfirst := holds_upcoming (k := 1) (by decide)
  refine .block_cons (R := fun w => Upcoming w ∧ w.MS = 1)
    (.act (holds_upcoming (by decide)) hfirst fun w h => ⟨h.1.plain, rfl⟩) <|
    .block_cons (R := fun w => Upcoming w ∧ w.MS = 1)
      (.act hfirst hfirst fun w h => ⟨h.1.plain, h.2⟩) <|
    .block_cons (R := Loaded) (.act hfirst holds_loaded fun w h => ?_) <|
    .block_last holds_away (.act holds_loaded holds_away fun w h => ?_)
  · obtain ⟨hgot, hread, hlong⟩ := get_MSID_works h.1.works w.MSID
    have hfiled : ∀ c, w.get_MSID.filed c = w.filed c := fun c => congrArg (serial c) hread
    refine ⟨⟨h.1.works.of_openOk (Dfs.get_MSID_openOk _ _), fun c hc => ?_⟩, hlong,
      hgot.trans hread.symm, h.2⟩
    obtain ⟨n, hf, hn⟩ := h.1.next c hc
    exact ⟨n, (hfiled c).trans hf, hn⟩
  · exact ⟨⟨h.toUpcoming.plain, h.long, (store_MSID_digits w).trans h.MSID⟩,
      fun hM => by have := h.MS.symm.trans hM; omega⟩

/-! ### State `2` -/

/-- In the settings, the key of the turn does not edit the serial. -/
structure Unedited (w : World) : Prop extends Away w where
  key : w.button_number < 10 → 10 ≤ w.choose_number

theorem Received.unedited {w w' : World} (h : Received w w') (hw : Unedited w) : Unedited w' := by
  refine ⟨h.away hw.toAway, ?_⟩
  obtain ⟨r, M, log, rfl⟩ := h.statics
  exact hw.key

theorem holds_unedited : Holds (RadioTask AnyPacket) Unrepeated Unedited :=
  holds_of (fun _ _ h => h.unedited) fun _ h => h.toSaved.toUpcoming.unrepeated

theorem write_digit_triple :
    Triple (RadioTask AnyPacket) Unrepeated (fun w => Unedited w ∧ w.button_number < 10)
      write_digit Away := by
  have hP : Holds (RadioTask AnyPacket) Unrepeated
      fun w => Unedited w ∧ w.button_number < 10 := by
    refine holds_of (fun w w' h hw => ⟨h.unedited hw.1, ?_⟩) fun _ h => h.1.toSaved.toUpcoming.unrepeated
    obtain ⟨r, M, log, rfl⟩ := h.statics
    exact hw.2
  refine .ite hP (.unreached fun w h => ?_) ?_
  · have hlt : w.choose_number < 10 := by simpa using h.2
    have hge := h.1.1.key h.1.2
    omega
  · refine Triple.pre (P := Away) (plain_triple ?_) fun w h => h.1.1.toAway
    exact ⟨⟨trivial, fun _ => plain_plain rfl, trivial⟩, ⟨trivial, fun _ => plain_plain rfl, trivial⟩,
      trivial⟩

theorem digit_key_triple :
    Triple (RadioTask AnyPacket) Unrepeated (fun w => Unedited w ∧ w.button_number < 10)
      digit_key Away :=
  .block_cons write_digit_triple (plain_triple (p := block [_, _, _])
    ⟨fun _ => plain_plain rfl, next_digit_plain, redraw_plain, trivial⟩)

/-- The digits that are written are those of the file. -/
theorem Saved.set_MSID {w : World} (h : Saved w) : Saved w.set_MSID := by
  have hlt : ∀ b ∈ w.digits, b < 10 := h.digits ▸ read_MSID_lt _
  obtain ⟨hread, hlong⟩ := set_MSID_works h.works (Fs.file_ne_none (by decide) h.long) hlt
  have hfiled : ∀ c, w.set_MSID.filed c = w.filed c := fun c =>
    congrArg (serial c) (hread.trans h.digits)
  have hpasses : ∀ c, passes c w.set_MSID.log = passes c w.log := fun c => by
    simp only [World.set_MSID, call_file]
    split_ifs <;> rfl
  refine ⟨⟨h.works.of_openOk (Dfs.set_MSID_openOk _ _ _ _), fun c hc => ?_⟩, hlong, hread.symm⟩
  obtain ⟨n, hf, hn⟩ := h.next c hc
  refine ⟨n, (hfiled c).trans hf, ?_⟩
  rw [Counted, hpasses]
  exact hn

theorem ok_key_triple : Triple (RadioTask AnyPacket) Unrepeated Away ok_key Away := by
  refine .cond holds_away holds_away (Triple.pre (P := Away) ?_ fun _ => And.left) fun _ h _ => h
  refine .block_cons (.act holds_away holds_away fun w h => ⟨h.toSaved.set_MSID, h.MS⟩)
    (plain_triple (p := block [_, _]) ⟨⟨⟨fun _ => plain_plain rfl, ?_, trivial⟩, trivial⟩, fun _ => plain_plain rfl, trivial⟩)
  exact MS_thread_SetTime_shows.mono fun _ _ => Shows.plain

theorem MS_thread_SettingMs_triple :
    Triple (RadioTask AnyPacket) Unrepeated Unedited MS_thread_SettingMs Away := by
  have hblink : blink_settings.Keeps Unedited := blink_settings_shows.keeps fun w w' h hw =>
    ⟨h.toLooks.rests.away hw.toAway, by rw [h.button_number, h.choose_number]; exact hw.key⟩
  have hcond : ∀ {c : World → Bool} {p : Prog World}, p.All Plain →
      Triple (RadioTask AnyPacket) Unrepeated Away (.cond c p) Away := fun h =>
    plain_triple ⟨h, trivial⟩
  refine .block_cons (.of_keeps holds_unedited hblink) <|
    .block_cons (.cond holds_unedited holds_away (Triple.pre (P := Unedited) ?_ fun _ => And.left)
      fun _ h _ => h.toAway) <|
    .block_last holds_away (plain_triple start_button_plain)
  refine .block_cons (.cond holds_unedited holds_away ?_ fun _ h _ => h.toAway) <|
    .block_cons (hcond up_key_plain) <| .block_cons (hcond down_key_plain) <|
    .block_cons (hcond left_key_plain) <| .block_cons (hcond right_key_plain) <|
    .block_cons (hcond time_row_plain) <| .block_cons (hcond return_key_plain) <|
    .block_last holds_away (.cond holds_away holds_away
      (ok_key_triple.pre fun _ => And.left) fun _ h _ => h)
  refine digit_key_triple.pre fun w h => ⟨h.1, ?_⟩
  have hkey : w.button_number < 10 ∧ w.choose_number < 30 := by simpa using h.2
  exact hkey.1

/-! ### State `3` -/

/-- The test is under way. -/
structure Trying (w : World) : Prop extends Saved w where
  MS : w.MS = 3
  MS_error : w.MS_error = 0

/-- The verdict of the test. -/
structure Tested (w : World) : Prop extends Saved w where
  verdict : (w.MS = 5 ∧ w.MS_error = 0) ∨ (w.MS = 4 ∧ IsError w.MS_error)

theorem Received.trying {w w' : World} (h : Received w w') (hw : Trying w) : Trying w' := by
  refine ⟨h.saved hw.toSaved, (h.MS_away (by rw [hw.MS]; decide)).trans hw.MS, ?_⟩
  obtain ⟨r, M, log, rfl⟩ := h.statics
  exact hw.MS_error

theorem Received.tested {w w' : World} (h : Received w w') (hw : Tested w) : Tested w' := by
  have hM : w'.MS = w.MS := h.MS_away (by rcases hw.verdict with ⟨h, -⟩ | ⟨h, -⟩ <;> omega)
  refine ⟨h.saved hw.toSaved, ?_⟩
  rw [hM]
  obtain ⟨r, M, log, rfl⟩ := h.statics
  exact hw.verdict

theorem holds_trying : Holds (RadioTask AnyPacket) Unrepeated Trying :=
  holds_of (fun _ _ h => h.trying) fun _ h => h.toUpcoming.unrepeated

theorem holds_tested : Holds (RadioTask AnyPacket) Unrepeated Tested :=
  holds_of (fun _ _ h => h.tested) fun _ h => h.toUpcoming.unrepeated

/-- A statement that touches only statics no serial depends on. -/
theorem Saved.plain {w w' : World} (h : Saved w) (ha : Aside w w' := by exact aside_plain rfl) :
    Saved w' := ha.spares.saved h

/-- Every path of a test ends with a verdict. -/
theorem Test.triple {p : Prog World} (h : Test p) :
    Triple (RadioTask AnyPacket) Unrepeated Trying p Tested := by
  induction h with
  | pass =>
      refine .block_cons (.act holds_trying holds_tested fun w h =>
        ⟨h.toSaved.plain, .inl ⟨rfl, h.MS_error⟩⟩) <|
        .block_last holds_tested (.act holds_tested holds_tested fun w h => ⟨h.toSaved.plain, h.verdict⟩)
  | fail he =>
      have hmid : Holds (RadioTask AnyPacket) Unrepeated fun w => Saved w ∧ w.MS = 4 :=
        holds_of (fun w w' h hw => ⟨h.saved hw.1, (h.MS_away (by omega)).trans hw.2⟩)
          fun _ h => h.1.toUpcoming.unrepeated
      refine .block_cons (R := fun w => Saved w ∧ w.MS = 4)
        (.act holds_trying hmid fun w h => ⟨h.toSaved.plain, rfl⟩) <|
        .block_last holds_tested (.act hmid holds_tested fun w h =>
          ⟨h.1.plain, .inr ⟨h.2, he⟩⟩)
  | ite _ _ ihp ihq =>
      exact .ite holds_trying (ihp.pre fun _ => And.left) (ihq.pre fun _ => And.left)
  | seq hp _ _ ihq =>
      refine .seq (.of_keeps holds_trying (hp.keeps fun w w' h hw => ?_)) ihq
      exact ⟨h.toAside.spares.saved hw.toSaved, h.MS.trans hw.MS, h.MS_error.trans hw.MS_error⟩
  | last _ ih => exact .block_last holds_tested ih

theorem ms_number_hex_eq_zero {error : UInt8} (h : error = 0 ∨ IsError error) :
    (ms_number_hex error = chr '0') ↔ error = 0 := by
  have hall : ∀ n < 21, (ms_number_hex (UInt8.ofNat n) = chr '0' ↔ UInt8.ofNat n = 0) := by
    decide +kernel
  have hlt : error.toNat < 21 := by
    rcases h with rfl | h
    · decide
    · exact Nat.lt_succ_of_le h.2
  have hiff := hall error.toNat hlt
  rwa [UInt8.ofNat_toNat] at hiff

section record
variable (choose : ℕ) (zf_list : Vector UInt8 10) (ms_error : UInt8) (my_time : Vector UInt8 7)

theorem ms_record_take : (ms_record choose zf_list ms_error my_time).take (serial_len choose) =
    (cells zf_list (serial_len choose)).map (· - 100 + chr '0') := by
  have hlen : ((cells zf_list (serial_len choose)).map (· - 100 + chr '0')).length =
      serial_len choose := by
    rw [List.length_map, cells_length _ (serial_len_le _)]
  rw [ms_record, ← serial_len, List.append_assoc, List.append_assoc]
  exact List.take_left' hlen

/-- A record shows its error code behind the serial and a blank. -/
theorem ms_record_is_pass (h : ms_error = 0 ∨ IsError ms_error) :
    is_pass choose (ms_record choose zf_list ms_error my_time) = decide (ms_error = 0) := by
  have hlen : ((cells zf_list (serial_len choose)).map (· - 100 + chr '0')).length =
      serial_len choose := by
    rw [List.length_map, cells_length _ (serial_len_le _)]
  have hget : (ms_record choose zf_list ms_error my_time).getD (serial_len choose + 1) 0 =
      ms_number_hex ms_error := by
    rw [ms_record, ← serial_len, List.append_assoc, List.append_assoc,
      List.getD_append_right _ _ _ _ (by omega), hlen, Nat.add_sub_cancel_left]
    rfl
  rw [is_pass, hget]
  exact decide_eq_decide.mpr (ms_number_hex_eq_zero h)

end record

/-- The record of the test enters the history. -/
theorem set_record_log {w : World} (h : w.dfs.fs.Works) : w.set_record.log =
    .set_record w.choose (ms_record w.choose (w.zf_list6 w.choose) w.MS_error w.my_time) ::
      w.log := by
  simp only [World.set_record, call_file, h.openFile_creat, if_true]

/-- Behind the record the tester is away from a pass, or the pass is pending. -/
theorem Tested.set_record {w : World} (h : Tested w) (hc : w.choose < 3) :
    Away w.set_record ∨ Pending w.set_record := by
  have hcontent : w.set_record.dfs.fs.content .MS_MSID = w.dfs.fs.content .MS_MSID :=
    Dfs.set_record_MS_MSID _ _ _ _ _
  have hworks : w.set_record.dfs.fs.Works := h.works.of_openOk (Dfs.set_record_openOk _ _ _ _ _)
  have hfiled : ∀ c, w.set_record.filed c = w.filed c := fun c => by
    rw [World.filed, World.filed, hcontent]
  have hpass := ms_record_is_pass w.choose (w.zf_list6 w.choose) w.MS_error w.my_time
    (h.verdict.imp And.right And.right)
  have hother : ∀ c < 3, passes c w.set_record.log = passes c w.log → Next c w.set_record := by
    intro c hc hp
    obtain ⟨n, hf, hn⟩ := h.next c hc
    refine ⟨n, (hfiled c).trans hf, ?_⟩
    rw [Counted, hp]
    exact hn
  rcases h.verdict with ⟨hM, he⟩ | ⟨hM, he⟩
  · have hserial : passes w.choose w.set_record.log =
        w.filed w.choose :: passes w.choose w.log := by
      rw [set_record_log h.works, passes, if_pos ⟨rfl, by rw [hpass, he]; rfl⟩, ms_record_take,
        ← serial_MSID_bytes hc w.zf_list6, ← World.digits, h.digits, World.filed]
    obtain ⟨n, hn⟩ := (h.next w.choose hc).issued (hfiled _) hserial
    refine .inr ⟨⟨n, hworks, by rw [hcontent]; exact h.long, hc, hM, ?_, hn,
      fun c hc' hne => hother c hc' ?_⟩, by rw [hcontent]; exact h.digits⟩
    · rw [set_record_log h.works, unsaved, hpass, he]
      rfl
    · rw [set_record_log h.works, passes, if_neg fun hp => hne hp.1.symm]
  · have hno : w.MS_error ≠ 0 := by
      intro h0
      rw [h0] at he
      exact absurd he (by decide)
    refine .inl ⟨⟨⟨hworks, fun c hc => hother c hc ?_⟩, by rw [hcontent]; exact h.long, by
      rw [hcontent]; exact h.digits⟩, by rw [show w.set_record.MS = w.MS from rfl, hM]; decide⟩
    rw [set_record_log h.works, passes, if_neg]
    rintro ⟨rfl, hp⟩
    rw [hpass] at hp
    exact hno (of_decide_eq_true hp)

theorem MS_thread_test_triple :
    Triple (RadioTask AnyPacket) Unrepeated (fun w => Saved w ∧ w.MS = 3) MS_thread_test Between := by
  have hstart : Holds (RadioTask AnyPacket) Unrepeated fun w => Saved w ∧ w.MS = 3 :=
    holds_of (fun w w' h hw => ⟨h.saved hw.1, (h.MS_away (by omega)).trans hw.2⟩)
      fun _ h => h.1.toUpcoming.unrepeated
  have hmode : Holds (RadioTask AnyPacket) Unrepeated fun w => Tested w ∧ w.choose < 3 := by
    refine holds_of (fun w w' h hw => ⟨h.tested hw.1, ?_⟩) fun _ h => h.1.toUpcoming.unrepeated
    obtain ⟨r, M, log, rfl⟩ := h.statics
    exact hw.2
  refine .block_cons (R := Trying) (.act hstart holds_trying fun w h => ⟨h.1.plain, h.2, rfl⟩) <|
    .block_cons (R := Tested) (.ite holds_trying (MS_thread_test0_test.triple.pre fun _ => And.left)
      (MS_thread_test1_test.triple.pre fun _ => And.left)) <|
    .block_cons (R := Tested) (.act holds_tested holds_tested fun w h => ⟨h.toSaved.plain, h.verdict⟩) <|
    .block_cons (R := fun w => Tested w ∧ w.choose < 3)
      (.check holds_tested hmode fun w h hc => ⟨h, by simpa using hc⟩) <|
    .block_cons (R := Between) (.act hmode holds_between fun w h => .inr (h.1.set_record h.2)) <|
    .block_last holds_between (.act holds_between holds_between fun w h => ?_)
  have haside := (set_Record_txt_aside (fun w => (w.dfs.get_recordled_data + 1) % 0x10000)
    (fun w => w.dfs.get_ax5045len_data) w).spares
  rcases h with ⟨h, hM⟩ | h | h
  · exact .inl ⟨haside.upcoming h, hM⟩
  · exact .inr (.inl ((⟨haside, .inl rfl⟩ : Rests _ _).away h))
  · exact .inr (.inr (haside.pending rfl rfl h))

/-! ### State `5` -/

/-- The first `k` digits of the next serial are stored in the list of the mode. -/
structure Adding (c n m : ℕ) (zf_list6 : ℕ → Vector UInt8 10) (k : ℕ) (w : World) : Prop where
  unstored : Unstored c n w
  storing : Storing c (serial_len c) m zf_list6 k w
  next : m ≡ n + 1 [MOD 10 ^ serial_len c]
  digits : MSID_bytes (zf_list6 0) (zf_list6 1) (zf_list6 2) =
    read_MSID (w.dfs.fs.content .MS_MSID)

/-- The digits of the mode are the next ones, those of the other modes are unchanged. -/
structure Added (w : World) : Prop where
  unstored : ∃ c n, Unstored c n w ∧ serial c w.digits = dec_digits (serial_len c) (n + 1) ∧
    ∀ c' < 3, c' ≠ c → serial c' w.digits = w.filed c'
  lt : ∀ d ∈ w.digits, d < 10

theorem Received.adding {c n m k : ℕ} {zf_list6 : ℕ → Vector UInt8 10} {w w' : World}
    (h : Received w w') (hw : Adding c n m zf_list6 k w) : Adding c n m zf_list6 k w' := by
  refine ⟨h.unstored (h.MS_away (by rw [hw.unstored.MS]; decide)) hw.unstored, ?_, hw.next, by
    rw [h.MS_MSID]; exact hw.digits⟩
  obtain ⟨r, M, log, rfl⟩ := h.statics
  exact ⟨hw.storing.choose, hw.storing.number, hw.storing.others, hw.storing.cells⟩

theorem holds_adding (c n m k : ℕ) (zf_list6 : ℕ → Vector UInt8 10) :
    Holds (RadioTask AnyPacket) Unrepeated (Adding c n m zf_list6 k) :=
  holds_of (fun _ _ h => h.adding) fun _ h => h.unstored.unrepeated

theorem holds_added : Holds (RadioTask AnyPacket) Unrepeated Added := by
  refine holds_of (fun w w' h hw => ?_) fun _ h => by
    obtain ⟨c, n, hu, -⟩ := h.unstored
    exact hu.unrepeated
  obtain ⟨c, n, hu, hs, ho⟩ := hw.unstored
  refine ⟨⟨c, n, h.unstored (h.MS_away (by rw [hu.MS]; decide)) hu, h.digits ▸ hs, fun c' hc' hne => ?_⟩,
    h.digits ▸ hw.lt⟩
  rw [h.digits, h.filed]
  exact ho c' hc' hne

/-- The lists of a pending pass. -/
structure Before (c n : ℕ) (zf_list6 : ℕ → Vector UInt8 10) (w : World) : Prop where
  unstored : Unstored c n w
  choose : w.choose = c
  zf_list6 : w.zf_list6 = zf_list6
  digits : w.digits = read_MSID (w.dfs.fs.content .MS_MSID)

theorem Received.before {c n : ℕ} {zf_list6 : ℕ → Vector UInt8 10} {w w' : World}
    (h : Received w w') (hw : Before c n zf_list6 w) : Before c n zf_list6 w' := by
  refine ⟨h.unstored (h.MS_away (by rw [hw.unstored.MS]; decide)) hw.unstored, ?_,
    h.zf_list6.trans hw.zf_list6, by rw [h.digits, h.MS_MSID]; exact hw.digits⟩
  obtain ⟨r, M, log, rfl⟩ := h.statics
  exact hw.choose

theorem holds_before (c n : ℕ) (zf_list6 : ℕ → Vector UInt8 10) :
    Holds (RadioTask AnyPacket) Unrepeated (Before c n zf_list6) :=
  holds_of (fun _ _ h => h.before) fun _ h => h.unstored.unrepeated

/-- The number of the serial, plus one. -/
def successor (c : ℕ) (zf_list6 : ℕ → Vector UInt8 10) : ℕ :=
  number_of ((cells (zf_list6 c) (serial_len c)).map (· - 100)) + 1

/-- The digits are taken as a number, which becomes one more than the issued one. -/
theorem Before.adding {c n : ℕ} {zf_list6 : ℕ → Vector UInt8 10} {w : World}
    (h : Before c n zf_list6 w) :
    Adding c n (successor c zf_list6) zf_list6 0 (next_number (serial_len c) w) := by
  have hbytes : w.digits = MSID_bytes (zf_list6 0) (zf_list6 1) (zf_list6 2) := by
    rw [World.digits, h.zf_list6]
  have hlt : ∀ b ∈ cells (zf_list6 c) (serial_len c), b - 100 < 10 := fun b hb =>
    read_MSID_lt (w.dfs.fs.content .MS_MSID) (b - 100)
      (h.digits ▸ hbytes ▸ mem_MSID_bytes h.unstored.mode zf_list6 hb)
  have hnumber : (next_number (serial_len c) w).number = successor c zf_list6 := by
    have hlen := serial_len_bounds c
    have hcells : w.zf_list6 w.choose = zf_list6 c := by rw [h.zf_list6, h.choose]
    have hvalue := next_number_value (w := w) hlen.1 hlen.2 (by rw [hcells]; exact hlt)
    rwa [hcells] at hvalue
  have hnext : successor c zf_list6 ≡ n + 1 [MOD 10 ^ serial_len c] := by
    refine Nat.ModEq.add_right 1 ((dec_digits_eq_iff _ _ _).mp ?_)
    have hds := dec_digits_number_of ((cells (zf_list6 c) (serial_len c)).map (· - 100))
      fun d hd => by
        obtain ⟨b, hb, rfl⟩ := List.mem_map.mp hd
        exact hlt b hb
    rw [List.length_map, cells_length _ (serial_len_le _),
      List.map_map] at hds
    rw [hds, ← h.unstored.issued.filed, World.filed, ← h.digits, hbytes]
    exact (serial_MSID_bytes h.unstored.mode zf_list6).symm
  refine ⟨h.unstored.plain,
    ⟨h.choose, by rw [hnumber, pow_zero, Nat.div_one], fun row _ => congrFun h.zf_list6 row, fun i hi => by omega⟩,
    hnext, ?_⟩
  rw [← hbytes]
  exact h.digits

theorem Adding.store_digit {c n m k : ℕ} {zf_list6 : ℕ → Vector UInt8 10} {w : World}
    (hk : k < serial_len c) (h : Adding c n m zf_list6 k w) :
    Adding c n m zf_list6 (k + 1) (store_digit (serial_len c) k w) := by
  have h9 := serial_len_le c
  exact ⟨h.unstored.plain, h.storing.store_digit h9 hk, h.next, h.digits⟩

/-- All digits are stored. -/
theorem Adding.added {c n m : ℕ} {zf_list6 : ℕ → Vector UInt8 10} {w : World}
    (h : Adding c n m zf_list6 (serial_len c) w) : Added w := by
  have hcells := h.storing.cells_eq (serial_len_le c)
  have hserial : ∀ c' < 3, c' ≠ c → serial c' w.digits = w.filed c' := fun c' hc' hne => by
    rw [World.digits, serial_MSID_bytes hc' w.zf_list6, h.storing.others c' hne,
      ← serial_MSID_bytes hc' zf_list6, h.digits, World.filed]
  refine ⟨⟨c, n, h.unstored, ?_, hserial⟩, MSID_bytes_lt w.zf_list6 fun c' hc' b hb => ?_⟩
  · rw [World.digits, serial_MSID_bytes h.unstored.mode w.zf_list6, hcells, List.map_map,
      ← (dec_digits_eq_iff _ _ _).mpr h.next, dec_digits_eq]
    exact List.map_congr_left fun d _ => by simp
  · by_cases hne : c' = c
    · subst hne
      rw [hcells] at hb
      obtain ⟨d, hd, rfl⟩ := List.mem_map.mp hb
      have hlt : d < 10 := digits_lt (by decide) _ _ d hd
      interval_cases d <;> decide
    · rw [h.storing.others c' hne] at hb
      exact read_MSID_lt (w.dfs.fs.content .MS_MSID) (b - 100)
        (h.digits ▸ mem_MSID_bytes hc' zf_list6 hb)

theorem increment_triple (c n : ℕ) (zf_list6 : ℕ → Vector UInt8 10) :
    Triple (RadioTask AnyPacket) Unrepeated (Before c n zf_list6) (increment (serial_len c)) Added := by
  refine .block_cons (.act (holds_before c n zf_list6) (holds_adding c n _ 0 zf_list6)
    fun w h => h.adding) (.block_last holds_added ?_)
  refine (Triple.block_range (A := Adding c n (successor c zf_list6) zf_list6)
    (holds_adding _ _ _ _ _) fun k hk => ?_).conseq (fun _ h => h) fun _ h => h.added
  exact .act (holds_adding _ _ _ _ _) (holds_adding _ _ _ _ _) fun w h => h.store_digit hk

/-- The new digits are written. -/
theorem Added.set_MSID {w : World} (h : Added w) : Saved w.set_MSID := by
  obtain ⟨c, n, hu, hs, ho⟩ := h.unstored
  obtain ⟨hread, hlong⟩ := set_MSID_works hu.works (Fs.file_ne_none (by decide) hu.long) h.lt
  have hfiled : ∀ c', w.set_MSID.filed c' = serial c' w.digits := fun c' => congrArg (serial c') hread
  have hpasses : ∀ c', passes c' w.set_MSID.log = passes c' w.log := fun c' => by
    simp only [World.set_MSID, call_file]
    split_ifs <;> rfl
  refine ⟨⟨hu.works.of_openOk (Dfs.set_MSID_openOk _ _ _ _), fun c' hc' => ?_⟩, hlong, hread.symm⟩
  by_cases hne : c' = c
  · subst hne
    exact hu.issued.next ((hfiled c').trans hs) (hpasses c')
  · obtain ⟨k, hf, hk⟩ := hu.others c' hc' hne
    refine ⟨k, ((hfiled c').trans (ho c' hc' hne)).trans hf, ?_⟩
    rw [Counted, hpasses]
    exact hk

theorem MS_thread_return_triple :
    Triple (RadioTask AnyPacket) Unrepeated Pending MS_thread_return Away := by
  have hinc : Triple (RadioTask AnyPacket) Unrepeated Pending
      (.ite (fun w => w.choose = 1) (increment 8) (increment 6)) Added := by
    refine .ite holds_pending ?_ ?_
    · refine (Triple.exists_pre fun n => Triple.exists_pre fun z => increment_triple 1 n z).pre
        fun w h => ?_
      have hc : w.choose = 1 := by simpa using h.2
      obtain ⟨n, hn⟩ := h.1.unstored
      exact ⟨n, w.zf_list6, hc ▸ hn, hc, rfl, h.1.digits⟩
    · have hsix : ∀ c, serial_len c = 6 → ∀ n z, Triple (RadioTask AnyPacket) Unrepeated
          (Before c n z) (increment 6) Added := fun c h6 n z => h6 ▸ increment_triple c n z
      refine (Triple.exists_pre fun c => Triple.exists_pre fun h6 => Triple.exists_pre fun n =>
        Triple.exists_pre fun z => hsix c h6 n z).pre fun w h => ?_
      have hc : w.choose ≠ 1 := by simpa using h.2
      obtain ⟨n, hn⟩ := h.1.unstored
      exact ⟨w.choose, if_neg hc, n, w.zf_list6, hn, rfl, rfl, h.1.digits⟩
  refine .block_cons (.check holds_pending holds_pending fun w h _ => h) <| .block_cons hinc <|
    .block_cons (.act holds_added holds_saved fun w h => h.set_MSID) <|
    .block_last holds_away ?_
  exact .block_cons (.act holds_saved holds_away fun w h => ⟨h.plain, (by decide : (2 : ℕ) ≠ 5)⟩)
    (plain_triple (p := block [_, _]) ⟨fun _ => plain_plain rfl, MS_thread_GetTime_plain, trivial⟩)

theorem MS_thread_pass_triple :
    Triple (RadioTask AnyPacket) Unrepeated Pending MS_thread_pass Between :=
  .cond holds_pending holds_between
    ((MS_thread_return_triple.pre fun _ => And.left).conseq (fun _ h => h) fun _ h => .inr (.inl h))
    fun _ h _ => .inr (.inr h)

/-! ### The loop -/

/-- The function of the state has been selected. -/
structure Chosen (w : World) : Prop where
  start : w.selector = 0 → Upcoming w ∧ w.MS = 0
  settings : w.selector = 2 → Unedited w
  test : w.selector = 3 → Saved w ∧ w.MS = 3
  pass : w.selector = 5 → Pending w
  other : w.selector ≠ 0 → w.selector ≠ 5 → Away w

theorem Received.chosen {w w' : World} (h : Received w w') (hw : Chosen w) : Chosen w' := by
  have hs : w'.selector = w.selector := by
    obtain ⟨r, M, log, rfl⟩ := h.statics
    rfl
  refine ⟨fun h0 => ?_, fun h2 => h.unedited (hw.settings (hs ▸ h2)), fun h3 => ?_,
    fun h5 => h.pending (hw.pass (hs ▸ h5)), fun h0 h5 => h.away (hw.other (hs ▸ h0) (hs ▸ h5))⟩
  · obtain ⟨hf, hM⟩ := hw.start (hs ▸ h0)
    exact ⟨h.upcoming hf, (h.MS_away (by omega)).trans hM⟩
  · obtain ⟨hf, hM⟩ := hw.test (hs ▸ h3)
    exact ⟨h.saved hf, (h.MS_away (by omega)).trans hM⟩

theorem holds_chosen : Holds (RadioTask AnyPacket) Unrepeated Chosen := by
  apply holds_of (fun _ _ h => h.chosen)
  intro w h
  by_cases h0 : w.selector = 0
  · exact (h.start h0).1.unrepeated
  by_cases h5 : w.selector = 5
  · exact (h.pass h5).unrepeated
  · exact (h.other h0 h5).toSaved.toUpcoming.unrepeated

theorem MS_functions_triple :
    Triple (RadioTask AnyPacket) Unrepeated Chosen (switch selector MS_functions) Between := by
  refine .switch holds_between (fun w w' he => ?_) holds_chosen ?_ fun w h hne => ?_
  · obtain ⟨r, M, log, rfl⟩ := (received_of_radio he).statics
    rfl
  · have haway : ∀ {k : ℕ} {p : Prog World}, k ≠ 0 → k ≠ 5 →
        Triple (RadioTask AnyPacket) Unrepeated Away p Away →
        Triple (RadioTask AnyPacket) Unrepeated (fun w => Chosen w ∧ w.selector = k) p Between :=
      fun h0 h5 h => h.conseq (fun w hw => hw.1.other (hw.2 ▸ h0) (hw.2 ▸ h5)) fun _ h => .inr (.inl h)
    simp only [MS_functions, List.forall_mem_cons, List.not_mem_nil, false_implies, implies_true,
      and_true]
    refine ⟨?_, haway (by decide) (by decide) (plain_triple MS_thread_SelectMode_plain), ?_, ?_,
      haway (by decide) (by decide) (plain_triple MS_thread_ERROR_plain), ?_,
      haway (by decide) (by decide) (rests_triple (MS_thread_ax_start_browses.mono fun _ _ => Browses.rests)),
      haway (by decide) (by decide) (rests_triple (MS_thread_ax_browses.mono fun _ _ => Browses.rests)),
      haway (by decide) (by decide) (rests_triple (MS_thread_ax_refresh_browses.mono fun _ _ => Browses.rests))⟩
    · exact MS_thread_init_triple.conseq (fun w h => h.1.start h.2) fun _ h => .inr (.inl h)
    · exact MS_thread_SettingMs_triple.conseq (fun w h => h.1.settings h.2) fun _ h => .inr (.inl h)
    · exact MS_thread_test_triple.pre fun w h => h.1.test h.2
    · exact MS_thread_pass_triple.pre fun w h => h.1.pass h.2
  · have h0 := hne (0, MS_thread_init) (by simp [MS_functions])
    have h5 := hne (5, MS_thread_pass) (by simp [MS_functions])
    exact .inr (.inl (h.other h0 h5))

/-- The user has edited a serial. -/
def Edited (w : World) : Prop := edited w.log = true

theorem edited_radio {w w' : World} (hw : Edited w) (he : RadioTask AnyPacket w w') : Edited w' := by
  rcases (received_of_radio he).log with hl | ⟨e, -, hl⟩
  · rw [Edited, hl]
    exact hw
  · rw [Edited, hl]
    exact edited_cons _ hw

/-- Whatever the functions do, the history only grows. -/
theorem switch_edited : (switch selector MS_functions).Keeps Edited := by
  have hcons : ∀ {w w' : World}, (w'.log = w.log ∨ ∃ e : Event, w'.log = e :: w.log) →
      Edited w → Edited w' := by
    rintro w w' (hl | ⟨e, hl⟩) hw
    · rw [Edited, hl]
      exact hw
    · rw [Edited, hl]
      exact edited_cons _ hw
  have hquietly : ∀ {p : Prog World}, p.All Quietly → p.Keeps Edited := fun h =>
    h.keeps fun _ _ hq => hcons (hq.log.imp_right fun ⟨e, _, hl⟩ => ⟨e, hl⟩)
  have hbrowses : ∀ {p : Prog World}, p.All Browses → p.Keeps Edited := fun h =>
    h.keeps fun _ _ hq => hcons (hq.log.imp_right fun ⟨e, _, hl⟩ => ⟨e, hl⟩)
  exact ⟨hquietly MS_thread_init_quietly, hquietly (all_quietly MS_thread_SelectMode_plain),
    hquietly MS_thread_SettingMs_quietly, hquietly MS_thread_test_quietly,
    hquietly (all_quietly MS_thread_ERROR_plain), hquietly MS_thread_pass_quietly,
    hbrowses MS_thread_ax_start_browses, hbrowses MS_thread_ax_browses,
    hbrowses MS_thread_ax_refresh_browses, trivial⟩

/-- The function is selected, and if the key edits the serial, the history says so. -/
theorem Between.chosen {w : World} (h : Between w) : Edited (select w) ∨ Chosen (select w) := by
  by_cases hkey : w.MS = 2 ∧ w.button_number < 10 ∧ w.choose_number < 10
  · exact .inl (by simp [Edited, MeterTester.select, happen, edited, hkey])
  have hn : Neutral w (select w) :=
    ⟨rfl, rfl, .inr ⟨.switch w.MS w.button_number w.choose_number w.time_number, trivial, rfl⟩⟩
  have hs : Spares w (select w) := ⟨hn, rfl⟩
  refine .inr ?_
  rcases h with ⟨h, hM⟩ | h | h
  · refine ⟨fun _ => ⟨hn.upcoming h, hM⟩, ?_, ?_, ?_, fun h0 => absurd hM h0⟩ <;>
      exact fun hk => absurd (hM.symm.trans hk) (by decide)
  · have haway : Away (select w) := (⟨hs, .inl rfl⟩ : Rests _ _).away h
    refine ⟨fun hk => ⟨haway.toUpcoming, hk⟩, fun hk => ⟨haway, fun hb => ?_⟩,
      fun hk => ⟨haway.toSaved, hk⟩, fun hk => absurd hk h.MS, fun _ _ => haway⟩
    · have hM : w.MS = 2 := hk
      have hb : w.button_number < 10 := hb
      show 10 ≤ w.choose_number
      omega
  · have hM := h.MS
    refine ⟨?_, ?_, ?_, fun _ => hs.pending rfl rfl h, fun _ h5 => absurd hM h5⟩ <;>
      exact fun hk => absurd (hM.symm.trans hk) (by decide)

/-- The invariant, as long as the user has edited no serial. -/
def Guarded (P : World → Prop) (w : World) : Prop := Edited w ∨ P w

theorem guarded_between :
    Holds (RadioTask AnyPacket) (Guarded Unrepeated) (Guarded Between) :=
  Triple.holds_or_kept (fun _ _ => edited_radio) holds_between

theorem guarded_turn :
    Triple (RadioTask AnyPacket) (Guarded Unrepeated) (Guarded Between) main_turn
      (Guarded Between) := by
  have hplain : ∀ {f : World → World}, (∀ w, Spares w (f w) ∧ (f w).MS = w.MS ∧
      (f w).choose = w.choose ∧ (f w).log = w.log) →
      Triple (RadioTask AnyPacket) (Guarded Unrepeated) (Guarded Between) (.act f)
        (Guarded Between) := fun hf =>
    .or_kept (fun _ _ => edited_radio)
      (fun w hw => by rw [Edited, (hf w).2.2.2]; exact hw)
      (.act holds_between holds_between fun w h => by
        obtain ⟨hs, hM, hc, -⟩ := hf w
        rcases h with ⟨h, h0⟩ | h | h
        · exact .inl ⟨hs.upcoming h, hM.trans h0⟩
        · exact .inr (.inl ((⟨hs, .inl hM⟩ : Rests _ _).away h))
        · exact .inr (.inr (hs.pending hM hc h)))
  have hthread : Triple (RadioTask AnyPacket) (Guarded Unrepeated) (Guarded Between) MS_thread
      (Guarded Between) := by
    refine .block_cons (R := Guarded Chosen) (.act guarded_between
      (Triple.holds_or_kept (fun _ _ => edited_radio) holds_chosen) ?_)
      (.block_last guarded_between
        (.or_kept (fun _ _ => edited_radio) switch_edited MS_functions_triple))
    rintro w (h | h)
    · exact .inl (edited_cons _ h)
    · exact h.chosen
  exact .block_cons (hplain fun w => ⟨⟨neutral_plain, rfl⟩, rfl, rfl, rfl⟩) <|
    .block_cons hthread <|
    .block_cons (hplain fun w => ⟨⟨neutral_plain, rfl⟩, rfl, rfl, rfl⟩) <|
    .block_last guarded_between (hplain fun w => ⟨⟨neutral_plain, rfl⟩, rfl, rfl, rfl⟩)

theorem guarded_program :
    Triple (RadioTask AnyPacket) (Guarded Unrepeated) (Guarded fun w => Upcoming w ∧ w.MS = 0)
      main_program fun _ => False := by
  have hfirst := holds_upcoming (k := 0) (by decide)
  refine .block_cons (.or_kept (Q := fun w => Upcoming w ∧ w.MS = 0) (fun _ _ => edited_radio)
    (fun _ h => h) (.act hfirst hfirst fun w h => ?_))
    (.block_last ⟨fun _ _ h => h.elim, fun _ h => h.elim⟩
      ((Triple.forever guarded_between guarded_turn).pre fun _ h => h.imp_right .inl))
  have hn : Neutral w { w with dfs := w.dfs.my_dfs_init } :=
    ⟨Dfs.my_dfs_init_MS_MSID _, Dfs.my_dfs_init_openOk _, .inl rfl⟩
  exact ⟨hn.upcoming h.1, h.2⟩

/-- Over new files every serial is still to come. -/
theorem fresh_start (fs : Fs) (h : fs.Works) (devices : ℕ → Device) :
    Upcoming (World.start fs devices []) := by
  refine ⟨h, fun c hc => ?_⟩
  obtain ⟨n, hn⟩ := serial_numeral hc (read_MSID_length (fs.content .MS_MSID)) (read_MSID_lt _)
  exact ⟨n, hn, trivial⟩

/-- The image is started over the files as the reset finds them. -/
theorem Unrepeated.restart {w : World} (h : Unrepeated w) (hsaved : unsaved w.log = false)
    (devices : ℕ → Device) : Upcoming (World.start w.dfs.fs devices w.log) := by
  refine ⟨h.works, fun c hc => ?_⟩
  rcases h.file c hc with hn | ⟨hu, -⟩
  · exact hn
  · rw [hsaved] at hu
    cases hu

/-- **No serial is issued twice** in any run of sessions whose resets do not come between the record
of a pass and the writing of the incremented digits, and whose user does not edit the serials. -/
theorem passes_nodup {p : Prog World} {w : World}
    (h : Sessions (RadioTask AnyPacket) (Reset fun w => unsaved w.log = false) main_program
      SwitchedOn p w) (hedit : edited w.log = false) {c : ℕ} (hc : c < 3)
    (hcount : (passes c w.log).length < 10 ^ serial_len c) : (passes c w.log).Nodup := by
  have hinv : Guarded Unrepeated w := by
    refine Sessions.invariant guarded_program ?_ ?_ h
    · rintro s ⟨fs, devices, hworks, rfl⟩
      exact .inr ⟨fresh_start fs hworks devices, rfl⟩
    · rintro s s' (hs | hs) hreset
      · cases hreset
        exact .inl hs
      · cases hreset with
        | reset devices hsaved => exact .inr ⟨hs.restart hsaved devices, rfl⟩
  rcases hinv with he | hu
  · rw [Edited, hedit] at he
    cases he
  · exact hu.nodup hc hcount

/-- The record in the history is the one that goes to the log of the meters. -/
theorem set_record_append (w : World) (hw : w.dfs.fs.Works) (hc : w.choose < 3) :
    ∃ a : Append, a.log = .MS_record ∧
      w.set_record.log = .set_record w.choose a.record :: w.log ∧
      (w.set_record.set_Record_txt ((w.set_record.dfs.get_recordled_data + 1) % 0x10000)
        w.set_record.dfs.get_ax5045len_data).dfs = a.exec w.dfs :=
  ⟨.ms ⟨w.choose, hc⟩ (w.zf_list6 w.choose) w.MS_error w.my_time, rfl, set_record_log hw, rfl⟩

/-! ### A reset behind a pass -/

/-- The program is started in `w` and has run `n` turns. -/
def session (w : World) : ℕ → Option World
  | 0 => some { w with dfs := w.dfs.my_dfs_init }
  | n + 1 => (session w n).bind (main_turn.exec 0)

theorem session_reach {mayCome : World → ℤ → List UInt8 → ℕ → Prop} {w : World} (n : ℕ) (v : World)
    (h : session w n = some v) :
    Reach (RadioTask mayCome) main_program w (.seq (.forever main_turn) .skip) v := by
  induction n generalizing v with
  | zero =>
      cases h
      exact (Reach.refl.step (.seq _ (.act _ _))).step (.seq_skip _ _)
  | succ n ih =>
      obtain ⟨u, hu, h⟩ := Option.bind_eq_some_iff.mp h
      exact (ih u hu).trans (loop_turn_reach (exec_reach h))

/-- The operator presses OK twice and holds the start button down, and the meter on the bench answers
the reads of the test with its number, `3` and `0`. -/
def bench (number n : ℕ) : Device where
  button := if n = 1 ∨ n = 3 then BUTTON_OK else 16
  pin := fun _ => false
  get_time := Vector.replicate 7 0
  get_date := Vector.replicate 7 0
  uart_flag := UART_READ_OK
  uart_data := if n = 10 then number else if n = 12 then 3 else 0

/-- A session of `n` turns, and four turns of a second session with another meter. -/
def two_sessions (n number : ℕ) : Option World :=
  (session (World.start Fs.empty (bench 123456) []) n).bind fun w =>
    session (World.start w.dfs.fs (bench number) w.log) 4

theorem two_sessions_run {mayStrike : World → Prop} {n number : ℕ} {v : World}
    (h : two_sessions n number = some v)
    (hstrike : ∀ w, session (World.start Fs.empty (bench 123456) []) n = some w → mayStrike w) :
    Sessions (RadioTask AnyPacket) (Reset mayStrike) main_program SwitchedOn
      (.seq (.forever main_turn) .skip) v := by
  obtain ⟨w, hw, hv⟩ := Option.bind_eq_some_iff.mp h
  have hstart : SwitchedOn (World.start Fs.empty (bench 123456) []) :=
    ⟨Fs.empty, bench 123456, fun _ => rfl, rfl⟩
  exact (((Sessions.start hstart).trans (session_reach n w hw)).reset
    (.reset (bench number) (hstrike w hw))).trans (session_reach 4 v hv)

/-- The reset comes when the digits are written: two meters, two serials. -/
theorem passes_nodup_twice : ∃ w, two_sessions 64 123457 = some w ∧ (passes 0 w.log).length = 2 ∧
    (passes 0 w.log).Nodup := by
  have hsaved : (session (World.start Fs.empty (bench 123456) []) 64).map
      (fun w => unsaved w.log) = some false := by decide +kernel
  have hrun : (two_sessions 64 123457).map (fun w => (edited w.log, (passes 0 w.log).length)) =
      some (false, 2) := by decide +kernel
  obtain ⟨w, hw, he⟩ := Option.map_eq_some_iff.mp hrun
  simp only [Prod.mk.injEq] at he
  refine ⟨w, hw, he.2, passes_nodup (two_sessions_run hw fun v hv => ?_) he.1 (by decide) ?_⟩
  · rw [hv] at hsaved
    exact Option.some.inj hsaved
  · rw [he.2]
    decide

/-- The reset comes right behind the pass: both meters get the serial `123456`. -/
theorem reset_reissues :
    ¬ ∀ p w, Sessions (RadioTask AnyPacket) (Reset fun _ => True) main_program SwitchedOn p w →
      edited w.log = false → ∀ c < 3, (passes c w.log).length < 10 ^ serial_len c →
      (passes c w.log).Nodup := by
  intro h
  have hrun : (two_sessions 4 123456).map (fun w => (edited w.log, passes 0 w.log)) =
      some (false, [[49, 50, 51, 52, 53, 54], [49, 50, 51, 52, 53, 54]]) := by decide +kernel
  obtain ⟨w, hw, he⟩ := Option.map_eq_some_iff.mp hrun
  simp only [Prod.mk.injEq] at he
  have hnodup := h _ w (two_sessions_run hw fun _ _ => trivial) he.1 0 (by decide) (by
    rw [he.2]
    decide)
  rw [he.2] at hnodup
  exact absurd hnodup (by decide)

end MeterTester
