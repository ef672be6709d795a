import MeterTester.Cursor
import MeterTester.Pairing
import MeterTester.RingLog

/-! # The hand-over from the radio task to the log

`MS` is a mailbox of one place: the radio task sets it to `12` when the statics of the decoder hold
a record, and the main loop appends the record in its next turn and sets `MS` back to `11`.
`mailbox` reads a history of the program as the fate of this place, and `broken` is every history
in which a hand-over is lost, stored twice or late, or stored with other values.

Two things break it (`not_handed_over_rssi`, `not_handed_over_return`).  The signal strength is a
static that every packet overwrites, also while a record waits; and the turn that leaves the radio
log assigns `MS` without looking at it.  `handed_over_once`: if no packet does either, then no run
breaks the mailbox, whatever comes between the statements of the main loop. -/

namespace MeterTester

open Interleave Interleave.Prog World Dfs

/-! ### The mailbox -/

inductive Mailbox where
  | empty
  /-- `r` has been handed over; `late` once a turn has begun since then -/
  | full (r : Radio) (late : Bool)
  | broken
deriving DecidableEq

/-- The record of what was handed over. -/
def handed_record (r : Radio) (my_time : Vector UInt8 7) : List UInt8 :=
  ax_record r.v r.Controllable_Ms_flag r.msid r.msv my_time (rssi16 r)

/-- A hand-over fills the place, its record empties it.  It breaks by a hand-over before the record
of the last one, by a record without hand-over or with other values, and when a second turn begins
before the record. -/
def Mailbox.next : Mailbox → Event → Mailbox
  | .empty, .handover r => .full r false
  | .empty, .set_ax_record _ _ => .broken
  | .full _ _, .handover _ => .broken
  | .full r _, .set_ax_record my_time record =>
      if record = handed_record r my_time then .empty else .broken
  | .full r late, .switch _ _ _ _ => if late then .broken else .full r true
  | m, _ => m

/-- The mailbox after a history, newest event first. -/
def mailbox : List Event → Mailbox
  | [] => .empty
  | e :: log => (mailbox log).next e

/-- The turn under way was begun in state `11` with RETURN outside the date: it leaves the log. -/
def leaving : List Event → Bool
  | [] => false
  | .switch MS button_number _ time_number :: _ =>
      MS = 11 ∧ button_number = BUTTON_RETUEN ∧ 20 ≤ time_number
  | _ :: log => leaving log

/-- Neither a turn nor a hand-over nor a radio record. -/
def Event.IsSilent : Event → Prop
  | .switch _ _ _ _ | .handover _ | .set_ax_record _ _ => False
  | _ => True

theorem Event.IsMinor.isSilent {e : Event} (h : e.IsMinor) : e.IsSilent := by
  cases e <;> first | exact h | trivial

section history
variable {e : Event} (log : List Event)

theorem mailbox_silent (h : e.IsSilent) : mailbox (e :: log) = mailbox log := by
  rw [mailbox]
  cases e <;> first | exact h.elim | (cases mailbox log <;> rfl)

theorem leaving_silent (h : e.IsSilent) : leaving (e :: log) = leaving log := by
  cases e <;> first | exact h.elim | rfl

end history

/-! ### Packets -/

/-- The signal strength after a packet. -/
def heard_rssi (r : Radio) (rssi : ℤ) : Radio := { r with ax_rssi := rssi + RSSI_JIA - RSSI_JIAN }

/-- A packet that comes with the signal strength that is waiting to be stored, if a record waits,
and does not hand over in a turn that leaves the log. -/
structure Harmless (w : World) (rssi : ℤ) (rx_buffer : List UInt8) (rx_len : ℕ) : Prop where
  rssi : ∀ r late, mailbox w.log = .full r late →
    rssi16 (heard_rssi w.radio rssi) % 1000 = rssi16 r % 1000
  leaving : leaving w.log → w.MS = 11 → publishes rx_buffer rx_len w.radio = false

/-- The decoder still holds what was handed over, as far as a record shows it. -/
structure Carries (r' r : Radio) : Prop where
  v : r'.v = r.v
  flags : r'.Controllable_Ms_flag = r.Controllable_Ms_flag
  msid : r'.msid = r.msid
  msv : r'.msv = r.msv
  rssi : rssi16 r' % 1000 = rssi16 r % 1000

/-- A record shows three digits of the signal strength. -/
theorem Carries.record {r' r : Radio} (h : Carries r' r) (my_time : Vector UInt8 7) :
    handed_record r' my_time = handed_record r my_time := by
  have hrssi := h.rssi
  have h₁ : rssi16 r' / 100 % 10 = rssi16 r / 100 % 10 := by omega
  have h₂ : rssi16 r' / 10 % 10 = rssi16 r / 10 % 10 := by omega
  have h₃ : rssi16 r' % 10 = rssi16 r % 10 := by omega
  unfold handed_record ax_record
  simp only [h.v, h.flags, h.msid, h.msv, h₁, h₂, h₃]

/-- What the radio task does: it hands over, or it leaves `MS` and the history alone. -/
theorem radio_cases (w : World) (rssi : ℤ) (rx_buffer : List UInt8) (rx_len : ℕ) :
    (w.MS = 11 ∧ publishes rx_buffer rx_len w.radio ∧ ∃ r,
      w.rf4068_rx_callback rssi rx_buffer rx_len =
        { w with radio := r, MS := 12, log := .handover r :: w.log }) ∨
    (¬ (w.MS = 11 ∧ publishes rx_buffer rx_len w.radio) ∧ ∃ r,
      w.rf4068_rx_callback rssi rx_buffer rx_len = { w with radio := r } ∧
      (w.MS ≠ 11 → r = heard_rssi w.radio rssi)) := by
  have hMS := MeterTester.rf4068_rx_callback_MS rssi rx_buffer rx_len w.radio w.MS
  by_cases h : w.MS = 11 ∧ publishes rx_buffer rx_len w.radio
  · rw [if_pos h] at hMS
    refine .inl ⟨h.1, h.2, (MeterTester.rf4068_rx_callback rssi rx_buffer rx_len w.radio w.MS).1, ?_⟩
    have hne : w.MS ≠ 12 := by omega
    simp [World.rf4068_rx_callback, hMS, hne]
  · rw [if_neg h] at hMS
    refine .inr ⟨h, (MeterTester.rf4068_rx_callback rssi rx_buffer rx_len w.radio w.MS).1, ?_,
      fun hne => rf4068_rx_callback_of_ne rssi rx_buffer rx_len w.radio hne⟩
    simp [World.rf4068_rx_callback, hMS]

/-! ### Assertions -/

/-- Nothing has been handed over. -/
structure Calm (w : World) : Prop where
  works : w.dfs.fs.Works
  mailbox : mailbox w.log = .empty
  MS : w.MS ≠ 12

/-- Something waits for its record. -/
structure Full (late : Bool) (w : World) : Prop where
  works : w.dfs.fs.Works
  mailbox : ∃ r, mailbox w.log = .full r late ∧ Carries w.radio r
  MS : w.MS = 12

/-- At the start of a turn. -/
def Ready (w : World) : Prop := Calm w ∨ Full false w

/-- Away from the radio log. -/
structure Quiet (w : World) : Prop extends Calm w where
  MS11 : w.MS ≠ 11

/-- Behind the appended record; `MS` still keeps the radio task away. -/
structure Appended (w : World) : Prop where
  works : w.dfs.fs.Works
  mailbox : MeterTester.mailbox w.log = .empty
  MS : w.MS = 12

/-- In state `11`; a turn that leaves the log is calm. -/
structure Watching (w : World) : Prop where
  ready : Ready w
  leaving : leaving w.log → Calm w

section stable
variable {w w' : World}

theorem Calm.radio (h : Calm w) (he : RadioTask Harmless w w') :
    Calm w' ∨ (Full false w' ∧ leaving w.log = false) := by
  cases he with
  | @rx rssi rx_buffer rx_len hmay =>
      rcases radio_cases w rssi rx_buffer rx_len with ⟨hM, hp, r, heq⟩ | ⟨-, r, heq, -⟩ <;> rw [heq]
      · refine .inr ⟨⟨h.works, ⟨r, ?_, rfl, rfl, rfl, rfl, rfl⟩, rfl⟩, ?_⟩
        · rw [MeterTester.mailbox, h.mailbox]
          rfl
        · by_contra hl
          rw [hmay.leaving (by simpa using hl) hM] at hp
          cases hp
      · exact .inl ⟨h.works, h.mailbox, h.MS⟩

theorem Full.radio {late : Bool} (h : Full late w) (he : RadioTask Harmless w w') :
    Full late w' := by
  cases he with
  | @rx rssi rx_buffer rx_len hmay =>
      have hM : w.MS ≠ 11 := by have := h.MS; omega
      rcases radio_cases w rssi rx_buffer rx_len with ⟨hM', -⟩ | ⟨-, r', heq, hr'⟩
      · exact absurd hM' hM
      · rw [heq]
        obtain ⟨r, hr, hc⟩ := h.mailbox
        refine ⟨h.works, ⟨r, hr, ?_⟩, h.MS⟩
        dsimp only
        rw [hr' hM]
        exact ⟨hc.v, hc.flags, hc.msid, hc.msv, hmay.rssi r late hr⟩

/-- Away from state `11` the radio task changes the decoder alone. -/
theorem radio_of_ne (hM : w.MS ≠ 11) (he : RadioTask Harmless w w') :
    ∃ r, w' = { w with radio := r } := by
  cases he with
  | @rx rssi rx_buffer rx_len _ =>
      rcases radio_cases w rssi rx_buffer rx_len with ⟨hM', -⟩ | ⟨-, r, heq, -⟩
      · exact absurd hM' hM
      · exact ⟨r, heq⟩

/-- The radio task does not touch the main loop's own statics. -/
theorem radio_leaves (he : RadioTask Harmless w w') :
    leaving w'.log = leaving w.log ∧ w'.button_number = w.button_number ∧
      w'.time_number = w.time_number ∧ w'.selector = w.selector := by
  cases he with
  | @rx rssi rx_buffer rx_len _ =>
      rcases radio_cases w rssi rx_buffer rx_len with ⟨-, -, r, heq⟩ | ⟨-, r, heq, -⟩ <;>
        rw [heq] <;> exact ⟨rfl, rfl, rfl, rfl⟩

end stable

/-- The invariant of every moment. -/
def Unbroken (w : World) : Prop := mailbox w.log ≠ .broken

section holds

theorem Calm.unbroken {w : World} (h : Calm w) : Unbroken w := by
  rw [Unbroken, h.mailbox]
  exact nofun

theorem Full.unbroken {late : Bool} {w : World} (h : Full late w) : Unbroken w := by
  obtain ⟨r, hr, -⟩ := h.mailbox
  rw [Unbroken, hr]
  exact nofun

theorem holds_ready : Holds (RadioTask Harmless) Unbroken Ready where
  stable := by
    rintro w w' (h | h) he
    · exact (h.radio he).imp_right And.left
    · exact .inr (h.radio he)
  keeps := by
    rintro w (h | h)
    · exact h.unbroken
    · exact h.unbroken

theorem holds_full (late : Bool) : Holds (RadioTask Harmless) Unbroken (Full late) :=
  ⟨fun _ _ h he => h.radio he, fun _ h => h.unbroken⟩

theorem holds_quiet : Holds (RadioTask Harmless) Unbroken Quiet where
  stable := by
    intro w w' h he
    obtain ⟨r, rfl⟩ := radio_of_ne h.MS11 he
    exact ⟨⟨h.works, h.mailbox, h.MS⟩, h.MS11⟩
  keeps := fun _ h => h.unbroken

theorem holds_appended : Holds (RadioTask Harmless) Unbroken Appended where
  stable := by
    intro w w' h he
    obtain ⟨r, rfl⟩ := radio_of_ne (by have := h.MS; omega) he
    exact ⟨h.works, h.mailbox, h.MS⟩
  keeps := by
    intro w h
    rw [Unbroken, h.mailbox]
    exact nofun

theorem Watching.radio {w w' : World} (h : Watching w) (he : RadioTask Harmless w w') :
    Watching w' := by
  refine ⟨holds_ready.stable _ _ h.ready he, fun hl => ?_⟩
  rw [(radio_leaves he).1] at hl
  rcases (h.leaving hl).radio he with hc | ⟨-, hf⟩
  · exact hc
  · rw [hl] at hf
    cases hf

end holds

/-! ### The functions of the other states -/

/-- A statement of the states outside the radio log. -/
structure Quietly (w w' : World) : Prop where
  openOk : w'.dfs.fs.openOk = w.dfs.fs.openOk
  MS : w'.MS = w.MS ∨ (w'.MS ≠ 11 ∧ w'.MS ≠ 12)
  log : w'.log = w.log ∨ ∃ e : Event, e.IsSilent ∧ w'.log = e :: w.log

section quietly

theorem Quietly.quiet {w w' : World} (h : Quietly w w') (hw : Quiet w) : Quiet w' := by
  refine ⟨⟨hw.works.of_openOk h.openOk, ?_, ?_⟩, ?_⟩
  · rcases h.log with hl | ⟨e, he, hl⟩
    · rw [hl, hw.mailbox]
    · rw [hl, mailbox_silent _ he, hw.mailbox]
  · rcases h.MS with hM | hM
    · rw [hM]
      exact hw.MS
    · exact hM.2
  · rcases h.MS with hM | hM
    · rw [hM]
      exact hw.MS11
    · exact hM.1

theorem quietly_plain {w w' : World}
    (h : w'.dfs = w.dfs ∧ w'.MS = w.MS ∧ w'.log = w.log := by exact ⟨rfl, rfl, rfl⟩) :
    Quietly w w' := ⟨by rw [h.1], .inl h.2.1, .inl h.2.2⟩

theorem Aside.quietly {w w' : World} (h : Aside w w')
    (hM : w'.MS = w.MS ∨ (w'.MS ≠ 11 ∧ w'.MS ≠ 12)) : Quietly w w' :=
  ⟨h.openOk, hM, h.log.imp_right fun ⟨e, he, hl⟩ => ⟨e, he.isSilent, hl⟩⟩

theorem Looks.quietly {w w' : World} (h : Looks w w') : Quietly w w' :=
  h.toAside.quietly (.inl h.MS)

theorem Plain.quietly {w w' : World} (h : Plain w w') : Quietly w w' :=
  h.toAside.quietly (h.MS.imp_right fun hM => by
    simp only [List.mem_cons, List.not_mem_nil, or_false] at hM
    omega)

theorem Testing.quietly {w w' : World} (h : Testing w w') : Quietly w w' :=
  h.toAside.quietly (h.MS.imp_right fun hM => by omega)

theorem call_file_quietly (w : World) (p : Path) (creat : Bool) {e : Event} {f : Dfs → Dfs}
    (he : e.IsSilent) (hf : (f w.dfs).fs.openOk = w.dfs.fs.openOk) :
    Quietly w (w.call_file p creat e f) := by
  refine ⟨hf, .inl rfl, ?_⟩
  unfold call_file
  dsimp only
  split_ifs
  · exact .inr ⟨e, he, rfl⟩
  · exact .inl rfl

theorem set_MSID_quietly (w : World) : Quietly w w.set_MSID :=
  call_file_quietly w _ _ trivial (Dfs.set_MSID_openOk _ _ _ _)

theorem all_quietly {p : Prog World} (h : p.All Plain) : p.All Quietly :=
  h.mono fun _ _ => Plain.quietly

theorem MS_thread_init_quietly : MS_thread_init.All Quietly :=
  ⟨fun w => (plain_MS (by decide) w).quietly, fun _ => quietly_plain,
    fun _ => ⟨Dfs.get_MSID_openOk _ _, .inl rfl, .inl rfl⟩, fun _ => quietly_plain, trivial⟩

theorem write_digit_quietly : write_digit.All Quietly :=
  ⟨⟨trivial, fun _ => quietly_plain, trivial⟩, ⟨trivial, fun _ => quietly_plain, trivial⟩,
    ⟨trivial, fun _ => quietly_plain, trivial⟩, trivial⟩

theorem digit_key_quietly : digit_key.All Quietly :=
  ⟨write_digit_quietly, fun _ => quietly_plain, all_quietly next_digit_plain, all_quietly redraw_plain,
    trivial⟩

theorem ok_key_quietly : ok_key.All Quietly :=
  ⟨⟨set_MSID_quietly,
    ⟨⟨fun _ => quietly_plain,
      (MS_thread_SetTime_shows.mono fun _ _ h => h.plain.quietly), trivial⟩, trivial⟩,
    fun _ => quietly_plain, trivial⟩, trivial⟩

theorem MS_thread_SettingMs_quietly : MS_thread_SettingMs.All Quietly :=
  ⟨blink_settings_shows.mono fun _ _ h => h.plain.quietly,
    ⟨⟨⟨digit_key_quietly, trivial⟩, ⟨all_quietly up_key_plain, trivial⟩,
      ⟨all_quietly down_key_plain, trivial⟩, ⟨all_quietly left_key_plain, trivial⟩,
      ⟨all_quietly right_key_plain, trivial⟩, ⟨all_quietly time_row_plain, trivial⟩,
      ⟨all_quietly return_key_plain, trivial⟩, ⟨ok_key_quietly, trivial⟩, trivial⟩, trivial⟩,
    all_quietly start_button_plain, trivial⟩

theorem MS_thread_test_quietly : MS_thread_test.All Quietly :=
  ⟨fun _ => quietly_plain,
    ⟨MS_thread_test0_test.testing.mono fun _ _ => Testing.quietly,
      MS_thread_test1_test.testing.mono fun _ _ => Testing.quietly⟩,
    fun _ => quietly_plain, trivial,
    fun w => call_file_quietly w _ _ trivial (Dfs.set_record_openOk _ _ _ _ _),
    fun w => (set_Record_txt_aside (fun w => (w.dfs.get_recordled_data + 1) % 0x10000)
      (fun w => w.dfs.get_ax5045len_data) w).quietly (.inl rfl), trivial⟩

theorem MS_thread_pass_quietly : MS_thread_pass.All Quietly := by
  have hinc : ∀ len, (increment len).All Quietly :=
    increment_all (fun _ _ => quietly_plain) fun _ _ _ => quietly_plain
  exact ⟨⟨trivial, ⟨hinc 8, hinc 6⟩, set_MSID_quietly, all_quietly show_settings_plain, trivial⟩,
    trivial⟩

theorem quiet_triple {p : Prog World} (h : p.All Quietly) :
    Triple (RadioTask Harmless) Unbroken Quiet p Quiet :=
  .of_keeps holds_quiet (h.keeps fun _ _ hq hw => hq.quiet hw)

end quietly

/-! ### State `11` -/

theorem Looks.leaving {w w' : World} (h : Looks w w') : leaving w'.log = leaving w.log := by
  rcases h.log with hl | ⟨e, he, hl⟩
  · rw [hl]
  · rw [hl, leaving_silent _ he.isSilent]

theorem Looks.mailbox {w w' : World} (h : Looks w w') : mailbox w'.log = mailbox w.log := by
  rcases h.log with hl | ⟨e, he, hl⟩
  · rw [hl]
  · rw [hl, mailbox_silent _ he.isSilent]

theorem Looks.calm {w w' : World} (h : Looks w w') (hw : Calm w) : Calm w' :=
  ⟨hw.works.of_openOk h.openOk, h.mailbox.trans hw.mailbox, h.MS ▸ hw.MS⟩

theorem Looks.full {late : Bool} {w w' : World} (h : Looks w w') (hw : Full late w) :
    Full late w' := by
  obtain ⟨r, hr, hc⟩ := hw.mailbox
  exact ⟨hw.works.of_openOk h.openOk, ⟨r, h.mailbox.trans hr, h.radio ▸ hc⟩, h.MS.trans hw.MS⟩

theorem Looks.ready {w w' : World} (h : Looks w w') (hw : Ready w) : Ready w' :=
  hw.imp h.calm h.full

theorem Looks.watching {w w' : World} (h : Looks w w') (hw : Watching w) : Watching w' :=
  ⟨h.ready hw.ready, fun hl => h.calm (hw.leaving (h.leaving ▸ hl))⟩

/-- In state `11` with its key: RETURN outside the date is known to leave the log. -/
structure Keyed (w : World) : Prop extends Watching w where
  key : w.button_number = BUTTON_RETUEN → 20 ≤ w.time_number → MeterTester.leaving w.log

/-- In state `11` with another key than RETURN. -/
structure Staying (w : World) : Prop extends Watching w where
  key : w.button_number ≠ BUTTON_RETUEN

theorem Staying.keyed {w : World} (h : Staying w) : Keyed w :=
  ⟨h.toWatching, fun hk => absurd hk h.key⟩

theorem holds_keyed : Holds (RadioTask Harmless) Unbroken Keyed where
  stable := by
    intro w w' h he
    obtain ⟨hl, hb, ht, -⟩ := radio_leaves he
    exact ⟨h.toWatching.radio he, by rw [hl, hb, ht]; exact h.key⟩
  keeps := fun w h => holds_ready.keeps w h.ready

theorem holds_staying : Holds (RadioTask Harmless) Unbroken Staying where
  stable := by
    intro w w' h he
    exact ⟨h.toWatching.radio he, by rw [(radio_leaves he).2.1]; exact h.key⟩
  keeps := fun w h => holds_ready.keeps w h.ready

section watching

/-- The functions of the keys other than RETURN. -/
theorem key_triple {c : World → Bool} {p : Prog World} (hp : p.All Looks)
    (hc : ∀ w, c w = true → w.button_number ≠ BUTTON_RETUEN) :
    Triple (RadioTask Harmless) Unbroken Keyed (.cond c p) Keyed := by
  have hkeeps : p.Keeps Staying := hp.keeps fun w w' h hw =>
    ⟨h.watching hw.toWatching, by rw [h.button_number]; exact hw.key⟩
  exact .cond holds_keyed holds_keyed
    ((Triple.of_keeps holds_staying hkeeps).conseq
      (fun w h => ⟨h.1.toWatching, hc w h.2⟩) fun _ => Staying.keyed) fun _ h _ => h

theorem blink_date_triple : Triple (RadioTask Harmless) Unbroken Keyed blink_date Keyed := by
  have hkeep : ∀ {w w' : World}, Looks w w' → w'.time_number = w.time_number → Keyed w →
      Keyed w' := fun h ht hw =>
    ⟨h.watching hw.toWatching, by rw [h.button_number, ht, h.leaving]; exact hw.key⟩
  exact .of_keeps holds_keyed ⟨⟨fun _ => hkeep (looks_plain rfl) rfl,
    ⟨fun _ => hkeep (looks_plain rfl) rfl, trivial⟩, trivial⟩, trivial⟩

/-- RETURN: the assignment of `MS` comes in a turn that leaves the log, in which nothing is handed
over. -/
theorem ax_return_key_triple :
    Triple (RadioTask Harmless) Unbroken
      (fun w => Keyed w ∧ w.button_number = BUTTON_RETUEN) ax_return_key Ready := by
  have hP : Holds (RadioTask Harmless) Unbroken
      fun w => Keyed w ∧ w.button_number = BUTTON_RETUEN :=
    ⟨fun w w' h he => ⟨holds_keyed.stable w w' h.1 he, by
      rw [(radio_leaves he).2.1]; exact h.2⟩, fun w h => holds_keyed.keeps w h.1⟩
  have hleave : Holds (RadioTask Harmless) Unbroken
      fun w => Watching w ∧ leaving w.log = true :=
    ⟨fun w w' h he => ⟨h.1.radio he, by rw [(radio_leaves he).1]; exact h.2⟩,
      fun w h => holds_ready.keeps w h.1.ready⟩
  refine .ite hP ?_ ?_
  · refine (Triple.act hP holds_ready fun w h => ?_).pre fun w h => h.1
    refine Looks.ready (w := w) ?_ h.1.ready
    exact looks_plain rfl
  · refine Triple.pre (P := fun w => Watching w ∧ leaving w.log = true) ?_ fun w h =>
      ⟨h.1.1.toWatching, h.1.1.key h.1.2 (by simpa using h.2)⟩
    refine .block_cons (R := Quiet) (.act hleave holds_quiet fun w h => ?_)
      (.block_last holds_ready (.act holds_quiet holds_ready fun w h => ?_))
    · have hcalm := h.1.leaving h.2
      exact ⟨⟨hcalm.works, hcalm.mailbox, (by decide : (1 : ℕ) ≠ 12)⟩, (by decide : (1 : ℕ) ≠ 11)⟩
    · exact .inl ⟨h.works, h.mailbox, h.MS⟩

theorem MS_thread_ax_triple :
    Triple (RadioTask Harmless) Unbroken Keyed MS_thread_ax Ready := by
  refine .block_cons blink_date_triple (.block_last holds_ready ?_)
  refine .cond holds_keyed holds_ready (Triple.pre (P := Keyed) ?_ fun _ h => h.1)
    fun _ h _ => h.ready
  refine .block_cons (key_triple ax_digit_key_looks ?_) <|
    .block_cons (key_triple ax_back_key_looks ?_) <|
    .block_cons (key_triple ax_forward_key_looks ?_) <|
    .block_cons (key_triple ax_ok_key_looks ?_) <|
    .block_last holds_ready (.cond holds_keyed holds_ready
      (ax_return_key_triple.pre fun w h => ⟨h.1, by simpa using h.2⟩) fun _ h _ => h.ready)
  all_goals
    intro w hw
    have hw := of_decide_eq_true hw
    simp only [BUTTON_UP, BUTTON_DOWN, BUTTON_LEFT, BUTTON_RIGHT, BUTTON_OK, BUTTON_RETUEN] at hw ⊢
    omega

end watching

/-! ### State `12` -/

/-- The flags have been copied. -/
structure Copied (w : World) : Prop extends Full true w where
  data : w.data = w.radio.Controllable_Ms_flag

theorem holds_copied : Holds (RadioTask Harmless) Unbroken Copied where
  stable := by
    intro w w' h he
    refine ⟨h.toFull.radio he, ?_⟩
    cases he with
    | @rx rssi rx_buffer rx_len _ =>
        have hM : w.MS ≠ 11 := by have := h.MS; omega
        rcases radio_cases w rssi rx_buffer rx_len with ⟨hM', -⟩ | ⟨-, r, heq, hr⟩
        · exact absurd hM' hM
        · rw [heq]
          dsimp only
          rw [hr hM]
          exact h.data
  keeps := fun _ h => h.unbroken

/-- The record that is appended is the one of the hand-over. -/
theorem Copied.append {w : World} (h : Copied w) : Appended w.set_ax_record := by
  obtain ⟨r, hr, hc⟩ := h.mailbox
  refine ⟨h.works.of_openOk (Dfs.set_ax_record_openOk _ _ _ _ _ _ _), ?_, h.MS⟩
  have hrecord := hc.record w.my_time
  rw [handed_record, ← h.data] at hrecord
  simp only [World.set_ax_record, call_file, h.works.openFile_creat, if_true, mailbox, hr,
    Mailbox.next, hrecord]

theorem MS_thread_ax_refresh_triple :
    Triple (RadioTask Harmless) Unbroken (Full true) MS_thread_ax_refresh Ready := by
  have happended : ∀ {w w' : World}, w'.dfs.fs.openOk = w.dfs.fs.openOk → w'.log = w.log →
      w'.MS = w.MS → Appended w → Appended w' := fun ho hl hM h =>
    ⟨h.works.of_openOk ho, by rw [hl]; exact h.mailbox, hM.trans h.MS⟩
  have hplain : ∀ {f : World → World}, (∀ w, (f w).dfs.fs.openOk = w.dfs.fs.openOk ∧
      (f w).log = w.log ∧ (f w).MS = w.MS) →
      Triple (RadioTask Harmless) Unbroken Appended (.act f) Appended := fun h =>
    .act holds_appended holds_appended fun w hw => happended (h w).1 (h w).2.1 (h w).2.2 hw
  refine .block_cons (.act (holds_full true) holds_copied fun w h => ⟨⟨h.works, h.mailbox, h.MS⟩, rfl⟩) <|
    .block_cons (.act holds_copied holds_appended fun w h => h.append) <|
    .block_cons (hplain fun w => ⟨Dfs.set_Record_txt_openOk _ _ _ _, rfl, rfl⟩) <|
    .block_cons (hplain fun w => ⟨rfl, rfl, rfl⟩) <|
    .block_cons (.cond holds_appended holds_appended
      (.pre (P := Appended) (hplain fun w => ⟨rfl, rfl, rfl⟩) fun _ => And.left) fun _ h _ => h) <|
    .block_cons (hplain fun w => ⟨rfl, rfl, rfl⟩) <|
    .block_cons (hplain fun w => ⟨rfl, rfl, rfl⟩) <|
    .block_cons (hplain fun w => ⟨rfl, rfl, rfl⟩) <|
    .block_last holds_ready (.act holds_appended holds_ready fun w h =>
      .inl ⟨h.works, h.mailbox, (by decide : (11 : ℕ) ≠ 12)⟩)

/-! ### The loop -/

theorem MS_thread_ax_start_triple :
    Triple (RadioTask Harmless) Unbroken Quiet MS_thread_ax_start Ready := by
  have hlooks : ∀ {p : Prog World}, p.All Looks →
      Triple (RadioTask Harmless) Unbroken Quiet p Quiet := fun h =>
    quiet_triple (h.mono fun _ _ => Looks.quietly)
  refine .block_cons (hlooks fun _ => looks_plain rfl) <|
    .block_cons (hlooks fun _ => looks_plain rfl) <|
    .block_cons (hlooks fun _ => looks_plain rfl) <|
    .block_cons (hlooks ⟨show_ax_record_looks _, trivial⟩) <|
    .block_cons (hlooks fun _ => looks_plain rfl) <|
    .block_last holds_ready (.act holds_quiet holds_ready fun w h =>
      .inl ⟨h.works, h.mailbox, (by decide : (11 : ℕ) ≠ 12)⟩)

/-- The function of the state has been selected. -/
structure Selected (w : World) : Prop where
  ax : w.selector = 11 → Keyed w
  refresh : w.selector = 12 → Full true w
  quiet : w.selector ≠ 11 → w.selector ≠ 12 → Quiet w

theorem holds_selected : Holds (RadioTask Harmless) Unbroken Selected where
  stable := by
    intro w w' h he
    have hs := (radio_leaves he).2.2.2
    exact ⟨fun h11 => holds_keyed.stable w w' (h.ax (hs ▸ h11)) he,
      fun h12 => (h.refresh (hs ▸ h12)).radio he,
      fun h11 h12 => holds_quiet.stable w w' (h.quiet (hs ▸ h11) (hs ▸ h12)) he⟩
  keeps := by
    intro w h
    by_cases h11 : w.selector = 11
    · exact holds_keyed.keeps w (h.ax h11)
    · by_cases h12 : w.selector = 12
      · exact (h.refresh h12).unbroken
      · exact (h.quiet h11 h12).unbroken

theorem Ready.selected {w : World} (h : Ready w) : Selected (select w) := by
  rcases h with h | h
  · have hcalm : Calm (select w) :=
      ⟨h.works, by simp only [MeterTester.select, happen, mailbox, h.mailbox, Mailbox.next], h.MS⟩
    refine ⟨fun hM => ⟨⟨.inl hcalm, fun _ => hcalm⟩, fun hk ht => ?_⟩, fun h12 => absurd h12 h.MS,
      fun h11 _ => ⟨hcalm, h11⟩⟩
    have hM : w.MS = 11 := hM
    have hk : w.button_number = BUTTON_RETUEN := hk
    have ht : 20 ≤ w.time_number := ht
    simp [MeterTester.select, happen, MeterTester.leaving, hM, hk, ht]
  · obtain ⟨r, hr, hc⟩ := h.mailbox
    have hM := h.MS
    refine ⟨fun h11 => ?_, fun _ => ⟨h.works, ⟨r, ?_, hc⟩, h.MS⟩, fun _ h12 => absurd hM h12⟩
    · have h11 : w.MS = 11 := h11
      omega
    · simp [MeterTester.select, happen, mailbox, hr, Mailbox.next]

theorem MS_thread_triple : Triple (RadioTask Harmless) Unbroken Ready MS_thread Ready := by
  refine .block_cons (.act holds_ready holds_selected fun w => Ready.selected)
    (.block_last holds_ready ?_)
  have hquiet : ∀ {k : ℕ} {p : Prog World}, k ≠ 11 → k ≠ 12 →
      Triple (RadioTask Harmless) Unbroken Quiet p Ready →
      Triple (RadioTask Harmless) Unbroken (fun w => Selected w ∧ w.selector = k) p Ready :=
    fun h11 h12 hp => hp.pre fun w h => h.1.quiet (h.2 ▸ h11) (h.2 ▸ h12)
  have hready : ∀ {p : Prog World}, p.All Quietly →
      Triple (RadioTask Harmless) Unbroken Quiet p Ready := fun hp =>
    (quiet_triple hp).conseq (fun _ h => h) fun _ h => .inl h.toCalm
  refine .switch holds_ready (fun w w' he => (radio_leaves he).2.2.2) holds_selected ?_ ?_
  · simp only [MS_functions, List.forall_mem_cons, List.not_mem_nil, IsEmpty.forall_iff,
      implies_true, and_true]
    exact ⟨hquiet (by decide) (by decide) (hready MS_thread_init_quietly),
      hquiet (by decide) (by decide) (hready (all_quietly MS_thread_SelectMode_plain)),
      hquiet (by decide) (by decide) (hready MS_thread_SettingMs_quietly),
      hquiet (by decide) (by decide) (hready MS_thread_test_quietly),
      hquiet (by decide) (by decide) (hready (all_quietly MS_thread_ERROR_plain)),
      hquiet (by decide) (by decide) (hready MS_thread_pass_quietly),
      hquiet (by decide) (by decide) MS_thread_ax_start_triple,
      MS_thread_ax_triple.pre fun w h => h.1.ax h.2,
      MS_thread_ax_refresh_triple.pre fun w h => h.1.refresh h.2⟩
  · intro w h hne
    refine .inl (h.quiet ?_ ?_).toCalm
    · exact hne (11, MS_thread_ax) (by simp [MS_functions])
    · exact hne (12, MS_thread_ax_refresh) (by simp [MS_functions])

theorem main_turn_triple : Triple (RadioTask Harmless) Unbroken Ready main_turn Ready := by
  have hplain : ∀ {f : World → World}, (∀ w, Looks w { f w with button_number := w.button_number }) →
      Triple (RadioTask Harmless) Unbroken Ready (.act f) Ready := fun h =>
    .act holds_ready holds_ready fun w hw => by
      rcases (h w).ready hw with hc | hf
      · exact .inl ⟨hc.works, hc.mailbox, hc.MS⟩
      · exact .inr ⟨hf.works, hf.mailbox, hf.MS⟩
  exact .block_cons (hplain fun _ => looks_plain rfl) <| .block_cons MS_thread_triple <|
    .block_cons (hplain fun _ => looks_plain rfl) <| .block_last holds_ready (hplain fun _ => looks_plain rfl)

/-- **Exactly-once hand-over**: if every packet is harmless, no run of the main loop with the radio
task between its statements loses, repeats, delays or mixes up a record. -/
theorem handed_over_once {fs : Fs} (hfs : fs.Works) (devices : ℕ → Device) {p : Prog World}
    {w : World} (h : Reach (RadioTask Harmless) main_program (World.start fs devices []) p w) :
    mailbox w.log ≠ .broken := by
  have hready : Ready (World.start fs devices []) :=
    .inl ⟨hfs, rfl, (by decide : (0 : ℕ) ≠ 12)⟩
  have hmain : Triple (RadioTask Harmless) Unbroken Ready main_program fun _ => False := by
    refine .block_cons (R := Ready) (.act holds_ready holds_ready fun w hw => ?_)
      (.block_last ⟨fun _ _ h => h.elim, fun _ h => h.elim⟩ (.forever holds_ready main_turn_triple))
    rcases hw with hc | hf
    · exact .inl ⟨hc.works.of_openOk (Dfs.my_dfs_init_openOk _), hc.mailbox, hc.MS⟩
    · exact .inr ⟨hf.works.of_openOk (Dfs.my_dfs_init_openOk _), hf.mailbox, hf.MS⟩
  exact (hmain _ hready p w h).1

/-! ### Schedules are runs -/

theorem state_reach {mayCome : World → ℤ → List UInt8 → ℕ → Prop} {fs : Fs}
    {devices : ℕ → Device} {tasks : ℕ → Task}
    (htasks : ∀ n w rssi rx_buffer rx_len, state fs devices tasks n = some w →
      tasks n = .radio rssi rx_buffer rx_len → mayCome w rssi rx_buffer rx_len)
    (n : ℕ) (w : World) (h : state fs devices tasks n = some w) :
    Reach (RadioTask mayCome) main_program (World.start fs devices [])
      (.seq (.forever main_turn) .skip) w := by
  induction n generalizing w with
  | zero =>
      cases h
      exact (Reach.refl.step (.seq _ (.act _ _))).step (.seq_skip _ _)
  | succ n ih =>
      obtain ⟨v, hv, h⟩ := Option.bind_eq_some_iff.mp h
      apply (ih v hv).trans
      cases ht : tasks n with
      | main =>
          rw [ht] at h
          exact loop_turn_reach (exec_reach h)
      | radio rssi rx_buffer rx_len =>
          rw [ht] at h
          cases h
          exact Reach.refl.env (.rx (htasks n v _ _ _ hv ht))

/-- The listed tasks, then the main loop alone. -/
def schedule (tasks : List Task) (n : ℕ) : Task := tasks.getD n .main

/-- UP and OK enter the radio log; `last` is the key of the turn behind its start. -/
def log_keys (last : ℕ) : List ℕ := [16, BUTTON_UP, BUTTON_OK, 16, 16, last]

/-- A version-`1` packet of the meter `5` with the reading `7`. -/
def packet : List UInt8 := frame (packet_cells 5 7)

/-- Four turns into the radio log, one packet, one more turn. -/
theorem handed_over_once_packet : ∃ w,
    state Fs.empty (keypad (log_keys 16))
      (schedule [.main, .main, .main, .main, .radio (-70) packet 16]) 6 = some w ∧
    mailbox w.log ≠ .broken := by
  have hcalm : (state Fs.empty (keypad (log_keys 16))
      (schedule [.main, .main, .main, .main, .radio (-70) packet 16]) 4).map
        (fun w => (mailbox w.log, leaving w.log)) = some (.empty, false) := by decide +kernel
  obtain ⟨w, hw⟩ : ∃ w, state Fs.empty (keypad (log_keys 16))
      (schedule [.main, .main, .main, .main, .radio (-70) packet 16]) 6 = some w :=
    Option.isSome_iff_exists.mp (by decide +kernel)
  have hworks : Fs.empty.Works := fun _ => rfl
  refine ⟨w, hw, handed_over_once hworks _
    (state_reach (fun n v rssi rx_buffer rx_len hv ht => ?_) 6 w hw)⟩
  match n with
  | 0 | 1 | 2 | 3 | _ + 5 => cases ht
  | 4 =>
      rw [hv] at hcalm
      simp only [Option.map_some, Option.some.injEq, Prod.mk.injEq] at hcalm
      refine ⟨fun r late hr => ?_, fun hl => ?_⟩
      · rw [hcalm.1] at hr
        cases hr
      · rw [hcalm.2] at hl
        cases hl

/-- A packet of strength `-70` is handed over, and before its record another packet comes with
strength `-80`: the record shows `080`. -/
theorem not_handed_over_rssi :
    ¬ ∀ p w, Reach (RadioTask fun _ _ _ _ => True) main_program
        (World.start Fs.empty (keypad (log_keys 16)) []) p w → mailbox w.log ≠ .broken := by
  intro h
  have hbroken : (state Fs.empty (keypad (log_keys 16))
      (schedule [.main, .main, .main, .main, .radio (-70) packet 16, .radio (-80) [] 0]) 7).map
        (fun w => mailbox w.log) = some .broken := by decide +kernel
  obtain ⟨w, hw, hm⟩ := Option.map_eq_some_iff.mp hbroken
  exact h _ w (state_reach (fun _ _ _ _ _ _ _ => trivial) 7 w hw) hm

/-- A packet that arrives in the turn of RETURN is handed over, and the turn sets `MS` to `1`: the
record never comes. -/
theorem not_handed_over_return :
    ¬ ∀ p w, Reach (RadioTask fun _ _ _ _ => True) main_program
        (World.start Fs.empty (keypad (log_keys BUTTON_RETUEN)) []) p w →
      mailbox w.log ≠ .broken := by
  intro h
  have hbroken : ((state Fs.empty (keypad (log_keys BUTTON_RETUEN)) (fun _ => .main) 4).bind
      fun w => ((MS_function w.MS).exec 0 (w.entered.rf4068_rx_callback (-70) packet 16)).bind
      fun v => (main_turn.exec 0 v.ticked).bind fun u => (main_turn.exec 0 u).map
      fun t => mailbox t.log) = some .broken := by decide +kernel
  obtain ⟨w, hw, hbroken⟩ := Option.bind_eq_some_iff.mp hbroken
  obtain ⟨v, hv, hbroken⟩ := Option.bind_eq_some_iff.mp hbroken
  obtain ⟨u, hu, hbroken⟩ := Option.bind_eq_some_iff.mp hbroken
  obtain ⟨t, ht, hm⟩ := Option.map_eq_some_iff.mp hbroken
  refine h _ t (((state_reach (fun _ _ _ _ _ _ h => by cases h) 4 w hw).trans
    (loop_turn_reach (turn_radio_reach trivial hv))).trans
    ((loop_turn_reach (exec_reach hu)).trans (loop_turn_reach (exec_reach ht)))) hm

/-! ### The record in the log -/

/-- The two file operations of `MS_thread_ax_refresh` are one append to the radio log, with the
bytes that the history shows. -/
theorem refresh_append (w : World) (hw : w.dfs.fs.Works) : ∃ a : Append, a.log = .AX_record ∧
    w.set_ax_record.log = .set_ax_record w.my_time a.record :: w.log ∧
    (w.set_ax_record.set_Record_txt w.set_ax_record.dfs.get_recordled_data
      ((w.set_ax_record.dfs.get_ax5045len_data + 1) % 0x10000)).dfs = a.exec w.dfs := by
  refine ⟨.ax w.radio.v w.data w.radio.msid w.radio.msv w.my_time (rssi16 w.radio), rfl, ?_, rfl⟩
  simp only [World.set_ax_record, call_file, hw.openFile_creat, if_true]
  rfl

end MeterTester
