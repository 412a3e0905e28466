import ScreenCapture.Blank
import ScreenCapture.Proofs.Layout.Access

set_option autoImplicit false

namespace ScreenCapture

namespace Color

def covering (color : Color) : Color :=
  if color.alpha = 0 then { color with alpha := 255 } else color

theorem agrees_iff {color other : Color} :
    color.agrees other = true ↔ color.covering = other.covering := by
  obtain ⟨blue, green, red, alpha⟩ := color
  obtain ⟨otherBlue, otherGreen, otherRed, otherAlpha⟩ := other
  simp only [agrees, sameAlpha, covering, Bool.and_eq_true, Bool.or_eq_true, beq_iff_eq]
  split <;> split <;> grind

end Color

namespace Frame

def pixelCount (frame : Frame) : Nat := frame.size.width.toNat * frame.size.height.toNat

def pixelAt (frame : Frame) (index : Nat) : Point :=
  ⟨(index % frame.size.width.toNat : Nat), (index / frame.size.width.toNat : Nat)⟩

def centre (frame : Frame) : Point := ⟨frame.size.width / 2, frame.size.height / 2⟩

def IsSample (frame : Frame) (point : Point) : Prop :=
  point = frame.centre ∨ ∃ sample, sample * Blank.sampleStep < frame.pixelCount ∧
    point = frame.pixelAt (sample * Blank.sampleStep)

def Differs (frame : Frame) (blank : Color) (store : Store) (point : Point) : Prop :=
  (frame.view store point).covering ≠ blank.covering

instance (frame : Frame) (blank : Color) (store : Store) (point : Point) :
    Decidable (frame.Differs blank store point) :=
  inferInstanceAs (Decidable (_ ≠ _))

variable {frame : Frame} {store : Store} {index : Nat} {point : Point}

theorem pixelAt_contained (below : index < frame.pixelCount) :
    frame.bounds.contains (frame.pixelAt index) = true := by
  have wide : 0 < frame.size.width.toNat := Nat.pos_of_mul_pos_right (Nat.zero_lt_of_lt below)
  have column := Nat.mod_lt index wide
  have line := Nat.div_lt_of_lt_mul below
  rw [bounds_contains_iff, pixelAt]
  generalize index % frame.size.width.toNat = x at column ⊢
  generalize index / frame.size.width.toNat = y at line ⊢
  dsimp only
  omega

theorem centre_contained (solid : frame.size.isEmpty = false) :
    frame.bounds.contains frame.centre = true := by
  rw [Size.isEmpty_eq_false_iff] at solid
  rw [bounds_contains_iff, centre]
  dsimp only
  omega

theorem IsSample.contained (isSample : frame.IsSample point) (solid : frame.size.isEmpty = false) :
    frame.bounds.contains point = true := by
  obtain rfl | ⟨sample, below, rfl⟩ := isSample
  next => exact centre_contained solid
  next => exact pixelAt_contained below

theorem pixelAt_row {x y : Nat} (column : x < frame.size.width.toNat) :
    frame.pixelAt (y * frame.size.width.toNat + x) = ⟨x, y⟩ := by
  rw [pixelAt, Nat.mul_comm, Nat.mul_add_mod, Nat.mod_eq_of_lt column,
    Nat.mul_add_div (Nat.zero_lt_of_lt column), Nat.div_eq_of_lt column, Nat.add_zero]

theorem row_below {x y : Nat} (column : x < frame.size.width.toNat)
    (line : y < frame.size.height.toNat) : y * frame.size.width.toNat + x < frame.pixelCount :=
  calc y * frame.size.width.toNat + x
    _ < (y + 1) * frame.size.width.toNat := by rw [Nat.add_one_mul]; omega
    _ ≤ frame.size.height.toNat * frame.size.width.toNat := Nat.mul_le_mul_right _ line
    _ = frame.pixelCount := Nat.mul_comm _ _

theorem exists_sample (first : Nat) :
    ∃ sample, first ≤ sample * Blank.sampleStep ∧
      sample * Blank.sampleStep < first + Blank.sampleStep := by
  refine ⟨(first + (Blank.sampleStep - 1)) / Blank.sampleStep, ?_⟩
  unfold Blank.sampleStep
  omega

theorem sample_below_iff {sample pixels : Nat} :
    sample < (pixels + (Blank.sampleStep - 1)) / Blank.sampleStep ↔
      sample * Blank.sampleStep < pixels := by
  unfold Blank.sampleStep
  omega

namespace Layout

variable (layout : frame.Layout store) (blank : Color)

include layout

theorem pixelCount_isTravel : IsTravel (frame.size.width * frame.size.height) := by
  have ⟨widthProper, width⟩ := layout.width
  have ⟨heightProper, height⟩ := layout.height
  unfold IsCoordinate at width height
  have least := Int.mul_nonneg widthProper heightProper
  have greatest : frame.size.width * frame.size.height ≤ 2147483647 * 2147483647 :=
    Int.mul_le_mul width.2 height.2 heightProper (by decide)
  unfold IsTravel
  omega

theorem stands_eq (inside : frame.bounds.contains point = true) :
    Blank.stands frame blank store point = .ok (decide (frame.Differs blank store point)) := by
  have answer : (!(frame.view store point).agrees blank) =
      decide (frame.Differs blank store point) := by
    rw [Bool.eq_iff_iff, decide_eq_true_iff, Bool.not_eq_true', ← Bool.not_eq_true,
      Color.agrees_iff]
    rfl
  rw [Blank.stands, layout.fits.colorAt_eq inside, Checked.ok_bind, answer]
  rfl

theorem isBlank_exact : ∃ answer, Blank.isBlank frame blank store = .ok answer ∧
    (answer = true ↔ frame.size.isEmpty = true ∨
      ∀ point, frame.IsSample point → ¬frame.Differs blank store point) := by
  unfold Blank.isBlank
  split
  next hollow => exact ⟨true, rfl, iff_of_true rfl (.inl hollow)⟩
  next solid =>
    rw [Bool.not_eq_true] at solid
    have swept : sweepAny (Blank.sampleStands frame blank store)
        ((frame.pixelCount + (Blank.sampleStep - 1)) / Blank.sampleStep) 0 = .ok (decide (∃ sample,
          sample < (frame.pixelCount + (Blank.sampleStep - 1)) / Blank.sampleStep ∧
            frame.Differs blank store (frame.pixelAt (sample * Blank.sampleStep)))) :=
      sweepAny_eq_decide fun sample below =>
        layout.stands_eq blank (pixelAt_contained (sample_below_iff.mp below))
    simp only [solid, Bool.false_eq_true, false_or]
    rw [← pixelCount, swept, Checked.ok_bind]
    split
    next found =>
      obtain ⟨sample, below, differs⟩ := of_decide_eq_true found
      refine ⟨false, rfl, iff_of_false nofun fun same => ?_⟩
      exact same _ (.inr ⟨sample, sample_below_iff.mp below, rfl⟩) differs
    next none =>
      rw [← centre, layout.stands_eq blank (centre_contained solid), Checked.ok_bind]
      refine ⟨_, rfl, ?_⟩
      rw [← decide_not, decide_eq_true_iff]
      refine ⟨fun same point isSample => ?_, fun same => same _ (.inl rfl)⟩
      obtain rfl | ⟨sample, below, rfl⟩ := isSample
      next => exact same
      next =>
        intro differs
        exact none (decide_eq_true ⟨sample, sample_below_iff.mpr below, differs⟩)

theorem isBlank_answers : ∃ answer, Blank.isBlank frame blank store = .ok answer :=
  (layout.isBlank_exact blank).imp fun _ => And.left

variable {blank}

theorem isBlank_of_uniform (uniform : ∀ point, frame.bounds.contains point = true →
    ¬frame.Differs blank store point) : Blank.isBlank frame blank store = .ok true := by
  obtain ⟨answer, answered, exact⟩ := layout.isBlank_exact blank
  rw [answered, exact.mpr]
  by_cases hollow : frame.size.isEmpty = true
  next => exact .inl hollow
  next =>
    rw [Bool.not_eq_true] at hollow
    exact .inr fun point isSample => uniform point (isSample.contained hollow)

theorem isBlank_of_sample (solid : frame.size.isEmpty = false) (isSample : frame.IsSample point)
    (differs : frame.Differs blank store point) : Blank.isBlank frame blank store = .ok false := by
  obtain ⟨answer, answered, exact⟩ := layout.isBlank_exact blank
  rw [answered, Except.ok.injEq, ← Bool.not_eq_true, exact, solid]
  rintro (hollow | same)
  next => cases hollow
  next => exact same point isSample differs

theorem isBlank_of_run (first : Nat) (ends : first + Blank.sampleStep ≤ frame.pixelCount)
    (differs : ∀ index, first ≤ index → index < first + Blank.sampleStep →
      frame.Differs blank store (frame.pixelAt index)) :
    Blank.isBlank frame blank store = .ok false := by
  obtain ⟨sample, lower, upper⟩ := exists_sample first
  have below := Nat.lt_of_lt_of_le upper ends
  have solid := isEmpty_of_contains (pixelAt_contained below)
  exact layout.isBlank_of_sample solid (.inr ⟨sample, below, rfl⟩) (differs _ lower upper)

theorem isBlank_of_rect {rect : Rect} (inside : frame.bounds.encloses rect = true)
    (wide : Blank.sampleStep ≤ rect.right - rect.left) (tall : rect.top < rect.bottom)
    (differs : ∀ point, rect.contains point = true → frame.Differs blank store point) :
    Blank.isBlank frame blank store = .ok false := by
  have edges := bounds_encloses_iff.mp inside
  unfold Blank.sampleStep at wide
  have last : rect.top.toNat * frame.size.width.toNat + (rect.left.toNat + 104) <
      frame.pixelCount := row_below (by omega) (by omega)
  apply layout.isBlank_of_run (rect.top.toNat * frame.size.width.toNat + rect.left.toNat)
  next =>
    unfold Blank.sampleStep
    omega
  next =>
    intro index lower upper
    unfold Blank.sampleStep at upper
    obtain ⟨column, rfl⟩ := Nat.exists_eq_add_of_le lower
    rw [Nat.add_assoc, pixelAt_row (by omega)]
    apply differs
    rw [Rect.contains_iff]
    dsimp only
    omega

theorem isBlank_covers (blank : Color) :
    IsTravel (frame.size.width * frame.size.height) ∧
    ∃ answer, Blank.isBlank frame blank store = .ok answer ∧
      (frame.size.isEmpty = true → answer = true) ∧
      ((∀ point, frame.bounds.contains point = true → ¬frame.Differs blank store point) →
        answer = true) ∧
      (frame.size.isEmpty = false → frame.Differs blank store frame.centre → answer = false) ∧
      (∀ first, first + 105 ≤ frame.pixelCount →
        (∀ index, first ≤ index → index < first + 105 →
          frame.Differs blank store (frame.pixelAt index)) → answer = false) ∧
      ∀ rect, frame.bounds.encloses rect = true → 105 ≤ rect.right - rect.left →
        rect.top < rect.bottom →
        (∀ point, rect.contains point = true → frame.Differs blank store point) →
        answer = false := by
  obtain ⟨answer, answered⟩ := layout.isBlank_answers blank
  have same {other : Bool} (blanks : Blank.isBlank frame blank store = .ok other) :
      answer = other := Except.ok.inj (answered.symm.trans blanks)
  refine ⟨layout.pixelCount_isTravel, answer, answered, ?_, ?_, ?_, ?_, ?_⟩
  next => exact fun hollow => same (if_pos hollow)
  next => exact fun uniform => same (layout.isBlank_of_uniform uniform)
  next => exact fun solid differs => same (layout.isBlank_of_sample solid (.inl rfl) differs)
  next => exact fun first ends differs => same (layout.isBlank_of_run first ends differs)
  next =>
    intro rect inside wide tall differs
    exact same (layout.isBlank_of_rect inside wide tall differs)

end Layout

def streak : Bytes := Bytes.zeros 4 ++ Array.replicate 420 255 ++ Bytes.zeros 536

def streaked : Frame := onBuffer ⟨60, 4⟩ 240 0

def streakedStore : Store := (Store.empty.addBuffer .heap streak).2

theorem streakedStore_bytes : streakedStore.bytes 0 = streak :=
  bytes_addBuffer_new .empty .heap streak

theorem streak_byte {index : Nat} (lower : 4 ≤ index) (upper : index < 424) :
    streak.byte index = 255 := by
  have white : streak[index]? = some 255 := by
    rw [streak, Array.getElem?_append_left, Array.getElem?_append_right, Array.getElem?_replicate,
      if_pos] <;>
      simp only [Bytes.zeros, Array.size_append, Array.size_replicate] <;> omega
  rw [Bytes.byte, Array.getD_eq_getD_getElem?, white]
  rfl

theorem streaked_layout : streaked.Layout streakedStore := by
  have length : (streakedStore.bytes 0).size = 960 := by
    rw [streakedStore_bytes, streak]
    simp only [Bytes.zeros, Array.size_append, Array.size_replicate]
  exact layout_onBuffer (by decide) (by decide) (by decide) (by rw [length]; decide)
    (by rw [length]; decide)

theorem isBlank_covers_streaked : streaked.Layout streakedStore ∧
    (∀ index, 1 ≤ index → index < 1 + 105 →
      streaked.Differs (.solid 0 0 0) streakedStore (streaked.pixelAt index)) ∧
    Blank.isBlank streaked (.solid 0 0 0) streakedStore = .ok false := by
  have differs : ∀ index, 1 ≤ index → index < 1 + 105 →
      streaked.Differs (.solid 0 0 0) streakedStore (streaked.pixelAt index) := by
    intro index lower upper
    have place : streaked.place (streaked.pixelAt index) = 4 * index := by
      simp only [place, pixelAt, streaked, onBuffer, bytesPerPixel, Int.toNat_natCast]
      rw [show Int.toNat 60 = 60 from rfl]
      omega
    have white : streaked.view streakedStore (streaked.pixelAt index) = .solid 255 255 255 := by
      rw [view, place, streaked, onBuffer, streakedStore_bytes, Bytes.color,
        streak_byte (by omega) (by omega), streak_byte (by omega) (by omega),
        streak_byte (by omega) (by omega), streak_byte (by omega) (by omega), Color.solid]
    rw [Differs, white]
    decide
  obtain ⟨_, answer, answered, _, _, _, run, _⟩ :=
    streaked_layout.isBlank_covers (.solid 0 0 0)
  rw [run 1 (by decide) differs] at answered
  exact ⟨streaked_layout, differs, answered⟩

end Frame

end ScreenCapture
