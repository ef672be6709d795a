import Mathlib

/-! # Pictures in layers

A layer shows something at the places it covers.  `paint` puts layers over a picture, one after the
other, so that the last one that covers a place is seen there.  Of layers that keep apart every one is
seen as it is (`paint_of_mem`); where some layer covers, what was there before is gone
(`paint_congr`). -/

namespace Picture
variable {ι α : Type*}

/-- What a layer shows, at the places it covers. -/
abbrev Layer (ι α : Type*) := ι → Option α

/-- The picture `s` under the layer. -/
def Layer.on (f : Layer ι α) (s : ι → α) : ι → α := fun i => (f i).getD (s i)

def paint (fs : List (Layer ι α)) (s : ι → α) : ι → α := fs.foldl (fun s f => f.on s) s

@[simp] theorem paint_nil (s : ι → α) : paint [] s = s := rfl

@[simp] theorem paint_cons (f : Layer ι α) (fs : List (Layer ι α)) (s : ι → α) :
    paint (f :: fs) s = paint fs (f.on s) := rfl

theorem paint_append (fs gs : List (Layer ι α)) (s : ι → α) :
    paint (fs ++ gs) s = paint gs (paint fs s) := List.foldl_append

theorem Layer.on_of_some {f : Layer ι α} {i : ι} {a : α} (h : f i = some a) (s : ι → α) :
    f.on s i = a := by
  rw [Layer.on, h, Option.getD_some]

theorem Layer.on_of_none {f : Layer ι α} {i : ι} (h : f i = none) (s : ι → α) : f.on s i = s i := by
  rw [Layer.on, h, Option.getD_none]

/-- A place that no layer covers stays as it is. -/
theorem paint_of_none {fs : List (Layer ι α)} {i : ι} (h : ∀ f ∈ fs, f i = none) (s : ι → α) :
    paint fs s i = s i := by
  induction fs generalizing s with
  | nil => rfl
  | cons f fs ih =>
      rw [paint_cons, ih fun g hg => h g (List.mem_cons_of_mem f hg)]
      exact Layer.on_of_none (h f List.mem_cons_self) s

/-- The layers cover no place both. -/
def Apart (f g : Layer ι α) : Prop := ∀ i, f i = none ∨ g i = none

theorem Apart.none {f g : Layer ι α} (h : Apart f g) {i : ι} {a : α} (hf : f i = some a) :
    g i = .none := by
  rcases h i with h | h
  · rw [hf] at h
    cases h
  · exact h

/-- **Layers that keep apart are all seen.** -/
theorem paint_of_mem {fs : List (Layer ι α)} (hfs : fs.Pairwise Apart) {f : Layer ι α} (hf : f ∈ fs)
    {i : ι} {a : α} (h : f i = some a) (s : ι → α) : paint fs s i = a := by
  induction fs generalizing s with
  | nil => cases hf
  | cons g gs ih =>
      obtain ⟨hg, hgs⟩ := List.pairwise_cons.mp hfs
      rcases List.mem_cons.mp hf with rfl | hf
      · rw [paint_cons, paint_of_none (fun k hk => (hg k hk).none h)]
        exact Layer.on_of_some h s
      · exact ih hgs hf _

/-- Where a layer covers, nothing is left of what was there. -/
theorem paint_congr {fs : List (Layer ι α)} {i : ι} (h : ∃ f ∈ fs, f i ≠ none) (s s' : ι → α) :
    paint fs s i = paint fs s' i := by
  induction fs generalizing s s' with
  | nil =>
      obtain ⟨_, hf, -⟩ := h
      cases hf
  | cons g gs ih =>
      by_cases hgs : ∃ f ∈ gs, f i ≠ none
      · exact ih hgs _ _
      · have hnone : ∀ f ∈ gs, f i = none := fun f hf => by
          by_contra hne
          exact hgs ⟨f, hf, hne⟩
        obtain ⟨f, hf, hne⟩ := h
        rcases List.mem_cons.mp hf with rfl | hf
        · obtain ⟨a, ha⟩ := Option.ne_none_iff_exists'.mp hne
          rw [paint_cons, paint_cons, paint_of_none hnone, paint_of_none hnone,
            Layer.on_of_some ha, Layer.on_of_some ha]
        · exact absurd (hnone f hf) hne

/-! ### Rectangles -/

section rect
variable {m n : ℕ}

/-- The rectangle of `h` rows and `w` columns at row `top` and column `left`. -/
def rect (top left h w : ℕ) (g : ℕ → ℕ → α) : Layer (Fin m × Fin n) α := fun i =>
  if top ≤ i.1.1 ∧ i.1.1 < top + h ∧ left ≤ i.2.1 ∧ i.2.1 < left + w then
    some (g (i.1 - top) (i.2 - left))
  else none

theorem rect_of_mem {top left h w : ℕ} (g : ℕ → ℕ → α) {i : Fin m × Fin n} {r c : ℕ} (hr : r < h)
    (hc : c < w) (hi : i.1.1 = top + r) (hj : i.2.1 = left + c) :
    rect top left h w g i = some (g r c) := by
  rw [rect, if_pos (by omega), hi, hj, Nat.add_sub_cancel_left, Nat.add_sub_cancel_left]

theorem rect_of_not_mem {top left h w : ℕ} (g : ℕ → ℕ → α) {i : Fin m × Fin n}
    (hi : i.1.1 < top ∨ top + h ≤ i.1.1 ∨ i.2.1 < left ∨ left + w ≤ i.2.1) :
    rect top left h w g i = none := by
  rw [rect, if_neg]
  omega

/-- Rectangles that lie beside or above each other. -/
theorem rect_apart {top left h w top' left' h' w' : ℕ} (g g' : ℕ → ℕ → α)
    (ha : top + h ≤ top' ∨ top' + h' ≤ top ∨ left + w ≤ left' ∨ left' + w' ≤ left) :
    Apart (rect top left h w g : Layer (Fin m × Fin n) α) (rect top' left' h' w' g') := by
  intro i
  by_cases hi : top ≤ i.1.1 ∧ i.1.1 < top + h ∧ left ≤ i.2.1 ∧ i.2.1 < left + w
  · exact .inr (rect_of_not_mem g' (by omega))
  · exact .inl (if_neg hi)

/-- The rows of a rectangle, in any order. -/
theorem paint_rows {β : Type*} {top left h w : ℕ} (g : ℕ → ℕ → α) {f : β → ℕ} {is : List β}
    (hnodup : (is.map f).Nodup) (hall : ∀ r, r ∈ is.map f ↔ r < h) (s : Fin m × Fin n → α) :
    paint (is.map fun i => rect (top + f i) left 1 w fun _ c => g (f i) c) s =
      (rect top left h w g).on s := by
  funext x
  by_cases hx : top ≤ x.1.1 ∧ x.1.1 < top + h ∧ left ≤ x.2.1 ∧ x.2.1 < left + w
  · obtain ⟨i, hi, hr⟩ := List.mem_map.mp ((hall (x.1.1 - top)).mpr (by omega))
    have hrow : rect (top + f i) left 1 w (fun _ c => g (f i) c) x = some (g (f i) (x.2 - left)) :=
      rect_of_mem (r := 0) _ Nat.one_pos (by omega) (by omega) (by omega)
    rw [paint_of_mem ?_ (List.mem_map_of_mem hi) hrow, Layer.on_of_some (rect_of_mem (r := f i)
      (c := x.2 - left) _ (by omega) (by omega) (by omega) (by omega))]
    rw [List.pairwise_map]
    refine (List.pairwise_map.mp hnodup).imp fun hij => rect_apart _ _ ?_
    omega
  · rw [Layer.on_of_none (rect_of_not_mem _ (by omega)), paint_of_none]
    intro k hk
    obtain ⟨i, hi, rfl⟩ := List.mem_map.mp hk
    have hlt := (hall (f i)).mp (List.mem_map_of_mem hi)
    exact rect_of_not_mem _ (by omega)

end rect

/-! ### Rectangles that keep apart -/

structure Box where
  top : ℕ
  left : ℕ
  height : ℕ
  width : ℕ

namespace Box

def Apart (b b' : Box) : Prop :=
  b.top + b.height ≤ b'.top ∨ b'.top + b'.height ≤ b.top ∨ b.left + b.width ≤ b'.left ∨
    b'.left + b'.width ≤ b.left

instance (b b' : Box) : Decidable (b.Apart b') := inferInstanceAs (Decidable (_ ∨ _))

def Within (m n : ℕ) (b : Box) : Prop := b.top + b.height ≤ m ∧ b.left + b.width ≤ n

instance (m n : ℕ) (b : Box) : Decidable (b.Within m n) := inferInstanceAs (Decidable (_ ∧ _))

end Box

/-- A box and what is in it. -/
abbrev Placed (α : Type*) := Box × (ℕ → ℕ → α)

section placed
variable {m n : ℕ}

def layer (x : Placed α) : Layer (Fin m × Fin n) α :=
  rect x.1.top x.1.left x.1.height x.1.width x.2

/-- What is in a box is seen there. -/
theorem paint_in_box {xs : List (Placed α)} (hapart : (xs.map Prod.fst).Pairwise Box.Apart)
    {x : Placed α} (hx : x ∈ xs) {i : Fin m × Fin n} {r c : ℕ} (hr : r < x.1.height) (hc : c < x.1.width)
    (hi : i.1.1 = x.1.top + r) (hj : i.2.1 = x.1.left + c) (s : Fin m × Fin n → α) :
    layer x i ≠ none ∧ paint (xs.map layer) s i = x.2 r c := by
  have hlayer : layer x i = some (x.2 r c) := rect_of_mem x.2 hr hc hi hj
  refine ⟨by rw [hlayer]; exact Option.some_ne_none _, paint_of_mem ?_ (List.mem_map_of_mem hx) hlayer s⟩
  rw [List.pairwise_map] at hapart ⊢
  exact hapart.imp fun h => rect_apart _ _ h

/-- What is in two boxes looks the same. -/
def Alike (x y : Placed α) : Prop := ∀ r < x.1.height, ∀ c < x.1.width, x.2 r c = y.2 r c

/-- **What is in boxes that keep apart can be seen**: the same boxes painted over two pictures look the
same only if everything in them does. -/
theorem paint_alike {xs ys : List (Placed α)} (hbox : xs.map Prod.fst = ys.map Prod.fst)
    (hapart : (xs.map Prod.fst).Pairwise Box.Apart) (hin : ∀ b ∈ xs.map Prod.fst, b.Within m n)
    {s s' : Fin m × Fin n → α} (heq : ∀ i, (∃ x ∈ xs, layer x i ≠ none) →
      paint (xs.map layer) s i = paint (ys.map layer) s' i) : List.Forall₂ Alike xs ys := by
  induction xs generalizing ys s s' with
  | nil =>
      rw [List.map_eq_nil_iff.mp hbox.symm]
      exact .nil
  | cons x xs ih =>
      cases ys with
      | nil => cases hbox
      | cons y ys =>
          rw [List.map_cons, List.map_cons] at hbox
          obtain ⟨hxy, hrest⟩ := List.cons.inj hbox
          obtain ⟨hx, hxs⟩ := List.pairwise_cons.mp hapart
          have hnone : ∀ zs : List (Placed α), zs.map Prod.fst = xs.map Prod.fst → ∀ i : Fin m × Fin n,
              layer x i ≠ none → ∀ f ∈ zs.map layer, f i = none := by
            intro zs hzs i hi f hf
            obtain ⟨z, hz, rfl⟩ := List.mem_map.mp hf
            have hz' : z.1 ∈ xs.map Prod.fst := hzs ▸ List.mem_map_of_mem hz
            exact (rect_apart x.2 z.2 (hx z.1 hz') i).resolve_left hi
          refine .cons (fun r hr c hc => ?_)
            (ih hrest hxs (fun b hb => hin b (List.mem_cons_of_mem _ hb)) fun i hi => heq i ?_)
          swap
          · obtain ⟨z, hz, hne⟩ := hi
            exact ⟨z, List.mem_cons_of_mem x hz, hne⟩
          obtain ⟨hm, hn⟩ := hin x.1 List.mem_cons_self
          let i : Fin m × Fin n := (⟨x.1.top + r, by omega⟩, ⟨x.1.left + c, by omega⟩)
          have hix : layer x i = some (x.2 r c) := rect_of_mem x.2 hr hc rfl rfl
          have hiy : layer y i = some (y.2 r c) :=
            rect_of_mem y.2 (hxy ▸ hr) (hxy ▸ hc) (by rw [← hxy]) (by rw [← hxy])
          have hne : layer x i ≠ none := by
            rw [hix]
            exact Option.some_ne_none _
          have hi := heq i ⟨x, List.mem_cons_self, hne⟩
          simp only [List.map_cons, paint_cons] at hi
          rw [paint_of_none (hnone xs rfl i hne), paint_of_none (hnone ys hrest.symm i hne),
            Layer.on_of_some hix, Layer.on_of_some hiy] at hi
          exact hi

/-! ### Boxes side by side -/

/-- Boxes of the height `h` side by side, each with its width. -/
def strip (top h : ℕ) : ℕ → List (ℕ × (ℕ → ℕ → α)) → List (Placed α)
  | _, [] => []
  | left, x :: xs => (⟨top, left, h, x.1⟩, x.2) :: strip top h (left + x.1) xs

theorem strip_top (top h left : ℕ) (xs : List (ℕ × (ℕ → ℕ → α))) :
    ∀ b ∈ (strip top h left xs).map Prod.fst, b.top = top := by
  induction xs generalizing left with
  | nil => exact fun b hb => absurd hb List.not_mem_nil
  | cons x xs ih =>
      intro b hb
      rcases List.mem_cons.mp hb with rfl | hb
      · rfl
      · exact ih _ b hb

/-- A row is to the right of its left end, and its boxes keep apart. -/
theorem strip_apart (top h left : ℕ) (xs : List (ℕ × (ℕ → ℕ → α))) :
    (∀ b ∈ (strip top h left xs).map Prod.fst, left ≤ b.left) ∧
      ((strip top h left xs).map Prod.fst).Pairwise Box.Apart := by
  induction xs generalizing left with
  | nil => exact ⟨fun b hb => absurd hb List.not_mem_nil, .nil⟩
  | cons x xs ih =>
      obtain ⟨hleft, hapart⟩ := ih (left + x.1)
      refine ⟨fun b hb => ?_, List.pairwise_cons.mpr ⟨fun b hb => ?_, hapart⟩⟩
      · rcases List.mem_cons.mp hb with rfl | hb
        · exact le_rfl
        · exact (Nat.le_add_right _ _).trans (hleft b hb)
      · exact .inr (.inr (.inl (hleft b hb)))

/-- A row keeps within its height and its width. -/
theorem strip_within {top h left : ℕ} {xs : List (ℕ × (ℕ → ℕ → α))} (hh : top + h ≤ m)
    (hw : left + (xs.map Prod.fst).sum ≤ n) : ∀ b ∈ (strip top h left xs).map Prod.fst, b.Within m n := by
  induction xs generalizing left with
  | nil => exact fun b hb => absurd hb List.not_mem_nil
  | cons x xs ih =>
      rw [List.map_cons, List.sum_cons] at hw
      intro b hb
      rcases List.mem_cons.mp hb with rfl | hb
      · exact ⟨hh, by show left + x.1 ≤ n; omega⟩
      · exact ih (by omega) b hb

theorem strip_boxes {top h left : ℕ} {xs ys : List (ℕ × (ℕ → ℕ → α))}
    (hw : xs.map Prod.fst = ys.map Prod.fst) :
    (strip top h left xs).map Prod.fst = (strip top h left ys).map Prod.fst := by
  induction xs generalizing left ys with
  | nil => rw [List.map_eq_nil_iff.mp hw.symm]
  | cons x xs ih =>
      cases ys with
      | nil => cases hw
      | cons y ys =>
          obtain ⟨hxy, hrest⟩ := List.cons.inj hw
          simp only [strip, List.map_cons, hxy, ih hrest]

end placed

end Picture
