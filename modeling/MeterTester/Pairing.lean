import MeterTester.Frame

/-! # Readings and alarms of version `0`

A version-`0` meter sends its reading and its alarm flags in separate frames.  The decoder keeps
the reading in `msv` until an alarm frame of the same serial publishes both.

`Heard` is the decoder together with the frames it has accepted, newest first, and the frame whose
value `msv` holds.  After every run `msid` is the serial of the newest frame, and `msv` the value
of the newest frame other than an alarm since `msid` took that value (`Heard.Inv`).  That frame may
be of version `1` to `3`, whose packets share `msid` and `msv`; and a version-`0` reading is stored
from 27 cells.  Readings and alarms are paired exactly when neither happens before a hand-over
(`paired_iff`). -/

namespace MeterTester

/-! ### Accepted frames -/

def is_alarm (ds : List UInt8) : Bool := frame_version ds = 0 && is_marked ds

/-- A version-`0` reading frame. -/
def is_reading (ds : List UInt8) : Bool := frame_version ds = 0 && !is_marked ds

/-- The serial that the decoder reads in a frame of either format. -/
def frame_id (ds : List UInt8) : ℕ :=
  if frame_version ds = 0 then get_field ds 27 2 else get_field ds 20 4

/-- The number that a frame other than an alarm leaves in `msv`. -/
def frame_value (ds : List UInt8) : ℕ :=
  if frame_version ds = 0 then get_field ds 27 29 else get_field ds 20 24

theorem is_alarm_iff {ds : List UInt8} :
    is_alarm ds = true ↔ frame_version ds = 0 ∧ is_marked ds = true := by
  simp [is_alarm]

theorem is_reading_iff {ds : List UInt8} :
    is_reading ds = true ↔ frame_version ds = 0 ∧ is_alarm ds = false := by
  cases h : is_marked ds <;> simp [is_reading, is_alarm, h]

/-- The frames since `msid` took the value `id`, newest first. -/
def segment (id : ℕ) (frames : List (List UInt8)) : List (List UInt8) :=
  frames.takeWhile fun ds => frame_id ds = id

/-- The newest frame of the segment that carries a value. -/
def latest_value (id : ℕ) (frames : List (List UInt8)) : Option (List UInt8) :=
  (segment id frames).find? fun ds => !is_alarm ds

/-- The newest version-`0` reading frame of the segment. -/
def latest_reading (id : ℕ) (frames : List (List UInt8)) : Option (List UInt8) :=
  (segment id frames).find? is_reading

theorem segment_cons_self (ds : List UInt8) (frames : List (List UInt8)) :
    segment (frame_id ds) (ds :: frames) = ds :: segment (frame_id ds) frames := by
  simp [segment]

theorem latest_value_cons_alarm {ds : List UInt8} (h : is_alarm ds = true)
    (frames : List (List UInt8)) :
    latest_value (frame_id ds) (ds :: frames) = latest_value (frame_id ds) frames := by
  rw [latest_value, segment_cons_self, List.find?_cons_of_neg (by simp [h]), latest_value]

theorem latest_value_cons_other {ds : List UInt8} (h : is_alarm ds = false)
    (frames : List (List UInt8)) : latest_value (frame_id ds) (ds :: frames) = some ds := by
  rw [latest_value, segment_cons_self, List.find?_cons_of_pos (by simp [h])]

/-- A value found in a segment belongs to its serial and is no alarm. -/
theorem latest_value_some {id : ℕ} {frames : List (List UInt8)} {f : List UInt8}
    (h : latest_value id frames = some f) : frame_id f = id ∧ is_alarm f = false := by
  constructor
  · have hmem := List.mem_of_find?_eq_some h
    simpa using List.all_eq_true.mp List.all_takeWhile f hmem
  · simpa using List.find?_some h

/-- Without a value there is no reading. -/
theorem latest_reading_of_none {id : ℕ} {frames : List (List UInt8)}
    (h : latest_value id frames = none) : latest_reading id frames = none := by
  rw [latest_value, List.find?_eq_none] at h
  rw [latest_reading, List.find?_eq_none]
  intro f hf hr
  exact h f hf (by simp [(is_reading_iff.mp hr).2])

/-- The newest value is the newest reading if it is a reading at all. -/
theorem latest_reading_of_some {id : ℕ} {frames : List (List UInt8)} {f : List UInt8}
    (h : latest_value id frames = some f) (hv : frame_version f = 0) :
    latest_reading id frames = some f := by
  rw [latest_value, List.find?_eq_some_iff_append] at h
  rw [latest_reading, List.find?_eq_some_iff_append]
  obtain ⟨hf, as, bs, heq, has⟩ := h
  refine ⟨is_reading_iff.mpr ⟨hv, by simpa using hf⟩, as, bs, heq, fun a ha => ?_⟩
  have halarm : is_alarm a = true := by simpa using has a ha
  rw [Bool.not_eq_true', Bool.eq_false_iff, ne_eq, is_reading_iff, halarm]
  simp

/-! ### The decoder with its history -/

/-- One call of the callback: its arguments and the value of `MS` it finds. -/
structure Call where
  rssi : ℤ
  rx_buffer : List UInt8
  rx_len : ℕ
  MS : ℕ

namespace Call

def accepted (c : Call) : Option (List UInt8) := accept c.rx_buffer c.rx_len c.MS

def exec (c : Call) (r : Radio) : Radio × ℕ :=
  rf4068_rx_callback c.rssi c.rx_buffer c.rx_len r c.MS

end Call

/-- The statics, the accepted frames, newest first, and the frame from which `msv` was last
stored; `none` where the decoder itself has put `0` there. -/
structure Heard where
  r : Radio
  frames : List (List UInt8)
  origin : Option (List UInt8)

namespace Heard

def start : Heard where
  r := Radio.start
  frames := []
  origin := none

/-- Where `msv` comes from once the frame `ds` has been stored. -/
def store_origin (ds : List UInt8) (r : Radio) (origin : Option (List UInt8)) :
    Option (List UInt8) :=
  if is_alarm ds then
    if r.msid ≠ get_field ds 27 2 then none else origin
  else some ds

def call (h : Heard) (c : Call) : Heard where
  r := (c.exec h.r).1
  frames := c.accepted.toList ++ h.frames
  origin :=
    match c.accepted with
    | some ds => store_origin ds h.r h.origin
    | none => h.origin

/-- `msid` is the serial of the newest frame, and `msv` the value of the newest frame of its
segment that carries one. -/
structure Inv (h : Heard) : Prop where
  msid : h.r.msid = (h.frames.head?.map frame_id).getD 0
  origin : h.origin = latest_value h.r.msid h.frames
  msv : h.r.msv = (h.origin.map frame_value).getD 0

theorem inv_start : start.Inv := ⟨rfl, rfl, rfl⟩

/-- Another serial than `msid` has an empty segment. -/
theorem Inv.segment_nil {h : Heard} (hi : h.Inv) {ds : List UInt8}
    (hne : h.r.msid ≠ frame_id ds) : latest_value (frame_id ds) h.frames = none := by
  have hm := hi.msid
  unfold latest_value segment
  cases hf : h.frames with
  | nil => rfl
  | cons f frames =>
      rw [hf] at hm
      have : frame_id f ≠ frame_id ds := fun he => hne (by rw [hm, ← he]; rfl)
      rw [List.takeWhile_cons_of_neg (by simpa using this)]
      rfl

/-- A call that is not accepted stores at most the signal strength. -/
theorem call_none {h : Heard} {c : Call} (hc : c.accepted = none) :
    h.call c = { h with r := { h.r with ax_rssi := c.rssi + RSSI_JIA - RSSI_JIAN } } := by
  have hc' : accept c.rx_buffer c.rx_len c.MS = none := hc
  simp [call, Call.exec, rf4068_rx_callback, hc, hc']

/-- `msid` and `msv` after an accepted frame. -/
theorem call_some {h : Heard} {c : Call} {ds : List UInt8} (hc : c.accepted = some ds) :
    (h.call c).frames = ds :: h.frames ∧ (h.call c).origin = store_origin ds h.r h.origin ∧
      (h.call c).r.msid = frame_id ds ∧
      (h.call c).r.msv =
        if is_alarm ds then if h.r.msid ≠ frame_id ds then 0 else h.r.msv
        else frame_value ds := by
  have hc' : accept c.rx_buffer c.rx_len c.MS = some ds := hc
  refine ⟨by simp [call, hc], by simp [call, hc], ?_⟩
  simp only [call, Call.exec, rf4068_rx_callback, hc', store_frame]
  by_cases hv : frame_version ds = 0
  · cases hm : is_marked ds with
    | true =>
        by_cases hid : h.r.msid = get_field ds 27 2 <;>
          simp [hv, hm, hid, store_alarm, is_alarm, frame_id]
    | false => simp [hv, hm, store_reading, is_alarm, frame_id, frame_value]
  · simp [hv, store_packet, is_alarm, frame_id, frame_value]

theorem store_origin_alarm {ds : List UInt8} (ha : is_alarm ds = true) (r : Radio)
    (origin : Option (List UInt8)) :
    store_origin ds r origin = if r.msid ≠ frame_id ds then none else origin := by
  rw [store_origin, if_pos ha, frame_id, if_pos (is_alarm_iff.mp ha).1]

/-- **One call keeps the invariant.** -/
theorem Inv.call {h : Heard} (hi : h.Inv) (c : Call) : (h.call c).Inv := by
  cases hc : c.accepted with
  | none =>
      rw [call_none hc]
      exact ⟨hi.msid, hi.origin, hi.msv⟩
  | some ds =>
      obtain ⟨hframes, horigin, hmsid, hmsv⟩ := call_some (h := h) hc
      have hhead : (h.call c).r.msid = ((h.call c).frames.head?.map frame_id).getD 0 := by
        rw [hmsid, hframes]
        rfl
      cases ha : is_alarm ds with
      | false =>
          simp only [store_origin, ha, Bool.false_eq_true, if_false] at horigin hmsv
          exact ⟨hhead, by rw [horigin, hmsid, hframes, latest_value_cons_other ha],
            by rw [hmsv, horigin]; rfl⟩
      | true =>
          rw [store_origin_alarm ha] at horigin
          simp only [ha, if_true] at hmsv
          by_cases hid : h.r.msid = frame_id ds
          · rw [if_neg (by simpa using hid)] at horigin hmsv
            refine ⟨hhead, ?_, by rw [hmsv, horigin]; exact hi.msv⟩
            rw [horigin, hmsid, hframes, latest_value_cons_alarm ha, ← hid]
            exact hi.origin
          · rw [if_pos hid] at horigin hmsv
            refine ⟨hhead, ?_, by rw [hmsv, horigin]; rfl⟩
            rw [horigin, hmsid, hframes, latest_value_cons_alarm ha, hi.segment_nil hid]

/-! ### Hand-overs -/

/-- The call accepts the alarm frame `ds` and sets `MS` to `12`. -/
def HandsOver (h : Heard) (c : Call) (ds : List UInt8) : Prop :=
  c.accepted = some ds ∧ is_alarm ds = true ∧ (c.exec h.r).2 = 12

instance (h : Heard) (c : Call) (ds : List UInt8) : Decidable (h.HandsOver c ds) :=
  inferInstanceAs (Decidable (_ ∧ _ ∧ _))

/-- An alarm frame hands over exactly when `msid` already has its serial. -/
theorem handsOver_iff {h : Heard} {c : Call} {ds : List UInt8} (hc : c.accepted = some ds)
    (ha : is_alarm ds = true) : h.HandsOver c ds ↔ h.r.msid = frame_id ds := by
  have hc' : accept c.rx_buffer c.rx_len c.MS = some ds := hc
  have hMS : c.MS ≠ 12 := by rw [accept_MS hc']; decide
  obtain ⟨hv, hm⟩ := is_alarm_iff.mp ha
  simp only [HandsOver, hc, ha, true_and, Call.exec, rf4068_rx_callback, hc', store_frame, hv,
    hm, if_true, store_alarm, frame_id]
  by_cases hid : h.r.msid = get_field ds 27 2 <;> simp [hid, hMS]

end Heard

open Heard

/-- What an alarm frame of the serial `id` is to publish, `n` being the number of cells of a
version-`0` reading: the reading of the newest reading frame since `msid` took the value `id`,
or `0`, and no value of another meter or version. -/
structure Pairs (n id : ℕ) (frames : List (List UInt8)) (h : Heard) : Prop where
  reading : h.r.msv = ((latest_reading id frames).map fun f => get_field f n 29).getD 0
  same_meter : ∀ f ∈ h.origin, frame_version f = 0 ∧ frame_id f = id

/-- In the run `calls` from `h` on, every alarm frame that sets `MS` to `12` is paired with its
reading. -/
def Paired (n : ℕ) : List Call → Heard → Prop
  | [], _ => True
  | c :: calls, h =>
      (∀ ds, h.HandsOver c ds → Pairs n (frame_id ds) h.frames (h.call c)) ∧
        Paired n calls (h.call c)

/-- At every alarm frame, the newest frame since its serial was first heard that carries a value
is one of version `0` with the same number in `n` cells as in 27. -/
def ReadingsOnly (n : ℕ) : List Call → List (List UInt8) → Prop
  | [], _ => True
  | c :: calls, frames =>
      (∀ ds, c.accepted = some ds → is_alarm ds = true →
        ∀ f ∈ latest_value (frame_id ds) frames,
          frame_version f = 0 ∧ get_field f 27 29 = get_field f n 29) ∧
        ReadingsOnly n calls (c.accepted.toList ++ frames)

/-- One hand-over. -/
theorem pairs_iff {n : ℕ} {h : Heard} (hi : h.Inv) {c : Call} {ds : List UInt8}
    (hc : c.accepted = some ds) (ha : is_alarm ds = true) :
    Pairs n (frame_id ds) h.frames (h.call c) ↔
      ∀ f ∈ latest_value (frame_id ds) h.frames,
        frame_version f = 0 ∧ get_field f 27 29 = get_field f n 29 := by
  have hi' := hi.call c
  obtain ⟨hframes, -, hmsid, -⟩ := call_some (h := h) hc
  have horigin : (h.call c).origin = latest_value (frame_id ds) h.frames := by
    rw [hi'.origin, hmsid, hframes, latest_value_cons_alarm ha]
  have hmsv := hi'.msv
  rw [horigin] at hmsv
  cases hl : latest_value (frame_id ds) h.frames with
  | none =>
      rw [hl] at horigin hmsv
      simp only [Option.mem_def, reduceCtorEq, false_implies, implies_true, iff_true]
      exact ⟨by rw [hmsv, latest_reading_of_none hl]; rfl, by simp [horigin]⟩
  | some f =>
      rw [hl] at horigin hmsv
      obtain ⟨hfid, -⟩ := latest_value_some hl
      simp only [Option.map_some, Option.getD_some] at hmsv
      simp only [Option.mem_some_iff, forall_eq']
      constructor
      · rintro ⟨hreading, hsame⟩
        obtain ⟨hv, -⟩ := hsame f (by rw [horigin]; rfl)
        rw [latest_reading_of_some hl hv, hmsv, frame_value, if_pos hv] at hreading
        exact ⟨hv, hreading⟩
      · rintro ⟨hv, heq⟩
        refine ⟨?_, by rw [horigin]; rintro f' ⟨⟩; exact ⟨hv, hfid⟩⟩
        rw [latest_reading_of_some hl hv, hmsv, frame_value, if_pos hv]
        exact heq

theorem paired_iff_of_inv (n : ℕ) : ∀ (calls : List Call) {h : Heard}, h.Inv →
    (Paired n calls h ↔ ReadingsOnly n calls h.frames)
  | [], _, _ => Iff.rfl
  | c :: calls, h, hi => by
      have hrest := paired_iff_of_inv n calls (hi.call c)
      rw [Paired, ReadingsOnly, hrest]
      refine and_congr ⟨fun hp ds hc ha => ?_, fun hp ds ho => ?_⟩ Iff.rfl
      · by_cases hid : h.r.msid = frame_id ds
        · exact (pairs_iff hi hc ha).mp (hp ds ((handsOver_iff hc ha).mpr hid))
        · rw [hi.segment_nil hid]
          simp
      · obtain ⟨hc, ha, -⟩ := ho
        exact (pairs_iff hi hc ha).mpr (hp ds hc ha)

/-- **Pairing of version-`0` frames**: in a run from power-on every alarm frame that is handed
over publishes the reading of its own meter exactly when, at every alarm frame, the newest value
heard under its serial is a version-`0` reading that fits its cells, or there is none. -/
theorem paired_iff (n : ℕ) (calls : List Call) :
    Paired n calls Heard.start ↔ ReadingsOnly n calls [] :=
  paired_iff_of_inv n calls inv_start

/-- The cells of an alarm frame without flags. -/
def alarm_cells (id p : ℕ) : Bool :=
  if p < 2 then false else if p < 29 then id.testBit (28 - p) else p < 34

/-- The cells of a version-`1` packet without flags. -/
def packet_cells (id r p : ℕ) : Bool :=
  if p < 4 then p = 1 else if p < 24 then id.testBit (23 - p) else
    if p < 44 then r.testBit (43 - p) else false

/-- A packet of version `1` with serial `5` and reading `7`, then an alarm frame of the
version-`0` meter `5`: the alarm is published with the reading `7`. -/
theorem not_paired_packet_alarm :
    ¬ Paired 20 [⟨-60, frame (packet_cells 5 7), 16, 11⟩, ⟨-60, frame (alarm_cells 5), 16, 11⟩]
        Heard.start ∧
      ¬ Paired 27 [⟨-60, frame (packet_cells 5 7), 16, 11⟩, ⟨-60, frame (alarm_cells 5), 16, 11⟩]
        Heard.start := by
  constructor
  · rintro ⟨-, h, -⟩
    have := (h (matrix_bytes (cells_matrix (alarm_cells 5))) (by decide +kernel)).reading
    revert this
    decide +kernel
  · rintro ⟨-, h, -⟩
    have := (h (matrix_bytes (cells_matrix (alarm_cells 5))) (by decide +kernel)).reading
    revert this
    decide +kernel

end MeterTester
