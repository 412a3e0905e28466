import ScreenCapture.Proofs.Blank.Sampling
import ScreenCapture.Proofs.Pixels.Duplicate
import ScreenCapture.Proofs.Rotation.Drawing

set_option autoImplicit false

namespace ScreenCapture

namespace Changes

variable {old new old' new' : Frame} {store store' : Store} {rect : Rect} {output : Region}

theorem addRow_congr {index : Nat} (fits : old.Fits store) (newFits : new.Fits store)
    (fits' : old'.Fits store') (newFits' : new'.Fits store') (size : old'.size = old.size)
    (newSize : new'.size = new.size) (inside : old.bounds.encloses rect = true)
    (newInside : new.bounds.encloses rect = true) (solid : rect.left < rect.right)
    (line : rect.top + ((index * blockSize : Nat) : Int) < rect.bottom)
    (alike : DifferAlike old new store old' new' store' rect) :
    addRow old' new' rect store' index output = addRow old new rect store index output := by
  by_cases reached : IsCoordinate (rect.top + ((index * blockSize : Nat) : Int) + (blockSize : Int))
  next =>
    obtain ⟨result, added⟩ : ∃ result, addRow old new rect store index output = .ok result :=
      (addRow_answers_iff fits newFits inside newInside solid line).mpr reached
    have inside' : old'.bounds.encloses rect = true := by rwa [Frame.bounds, size]
    have newInside' : new'.bounds.encloses rect = true := by rwa [Frame.bounds, newSize]
    obtain ⟨result', added'⟩ : ∃ result, addRow old' new' rect store' index output = .ok result :=
      (addRow_answers_iff fits' newFits' inside' newInside' solid line).mpr reached
    rw [added, added', addRow_unique alike solid added added']
  next =>
    have failed : coordinate (rect.top + ((index * blockSize : Nat) : Int) + (blockSize : Int)) =
        .error .overflow := if_neg reached
    rw [addRow, addRow]
    dsimp only
    rw [failed, Checked.error_bind, Checked.error_bind]

theorem compare_eq : compare old new store rect output =
    if old.size = new.size then
      if (rect.meet old.bounds).isEmpty = true then .ok output
      else sweep (addRow old new (rect.meet old.bounds) store) (blockRows (rect.meet old.bounds)) 0 output
    else .error (.breach (.unequalSizes old.size new.size)) := by
  unfold compare
  by_cases equal : old.size = new.size
  next =>
    rw [if_neg (not_not_intro equal), if_pos equal]
    rfl
  next =>
    rw [if_pos equal, if_neg equal]
    rfl

theorem compare_congr (fits : old.Fits store) (newFits : new.Fits store) (fits' : old'.Fits store')
    (newFits' : new'.Fits store') (size : old'.size = old.size) (newSize : new'.size = new.size)
    (alike : DifferAlike old new store old' new' store' (rect.meet old.bounds)) :
    compare old' new' store' rect output = compare old new store rect output := by
  have bounds : old'.bounds = old.bounds := congrArg Rect.ofSize size
  rw [compare_eq, compare_eq, size, newSize, bounds]
  split
  next equal =>
    obtain hollow | ⟨solid, _, inside⟩ := Rect.meet_cases rect old.bounds
    next =>
      have none : Rect.zero.isEmpty = true := rfl
      rw [hollow, if_pos none, if_pos none]
    next =>
      have ordered := (Rect.isEmpty_eq_false_iff _).mp solid
      have newInside : new.bounds.encloses (rect.meet old.bounds) = true :=
        (congrArg (fun size => (Rect.ofSize size).encloses _) equal.symm).trans inside
      rw [solid, if_neg Bool.false_ne_true, if_neg Bool.false_ne_true]
      refine sweep_congr fun index output _ below => ?_
      refine addRow_congr fits newFits fits' newFits' size newSize inside newInside ordered.1 ?_ alike
      simp only [blockRows, blockSize] at below ⊢
      omega
  next => rfl

end Changes

namespace Frame

structure ShowsSame (frame other : Frame) (store : Store) : Prop where
  layout : frame.Layout store
  otherLayout : other.Layout store
  size : other.size = frame.size
  pixels : other.pixels store = frame.pixels store

-- The rectangle that a copy onto `rect` reads lies in the frame and begins in one of its rows, if only
-- at the end of one. Any that has pixels does.
def Offers (frame : Frame) (position : Point) (rect : Rect) : Prop :=
  (0 ≤ position.x ∧ position.x ≤ frame.size.width) ∧ (0 ≤ position.y ∧ position.y < frame.size.height) ∧
    frame.bounds.encloses (rect.moved ⟨position.x - rect.left, position.y - rect.top⟩) = true

structure Indistinguishable (frame other : Frame) (store : Store) : Prop where
  isBlack : other.isBlack store = frame.isBlack store
  isBlank : ∀ blank, Blank.isBlank other blank store = Blank.isBlank frame blank store
  looksLike : ∀ third, other.looksLike third store = frame.looksLike third store
  likened : ∀ third : Frame, third.looksLike other store = third.looksLike frame store
  compareOld : ∀ third : Frame, third.Layout store → ∀ rect output,
    Changes.compare other third store rect output = Changes.compare frame third store rect output
  compareNew : ∀ third : Frame, third.Layout store → ∀ rect output,
    Changes.compare third other store rect output = Changes.compare third frame store rect output
  duplicate : other.duplicate store = (frame.duplicate store).map fun made =>
    (made.1.map fun copy => { copy with info := other.info }, made.2)
  drawTurned : ∀ (target : Frame) rect rotation offset, target.drawTurned other rect rotation offset store =
    target.drawTurned frame rect rotation offset store
  copyPixels : ∀ (target : Frame) position rect, frame.Offers position rect →
    target.copyPixels other position rect store = target.copyPixels frame position rect store

theorem putRows_congr {plane other : Plane} {rect : Rect} (alike : plane.Alike other
    (rect.right - rect.left).toNat (rect.bottom - rect.top).toNat) :
    putRows other rect = putRows plane rect := by
  funext target
  refine Checked.bind_congr fun width wide => Checked.bind_congr fun rowBytes long =>
    Checked.bind_congr fun height high => ?_
  rw [← (coordinate_eq_ok_iff.mp wide).2] at long
  rw [← (address_eq_ok_iff.mp long).2, ← (coordinate_eq_ok_iff.mp high).2, alike.copyRows_eq_copyRows]

namespace ShowsSame

variable {frame other : Frame} {store next : Store} (same : frame.ShowsSame other store)

include same

theorem bounds : other.bounds = frame.bounds := congrArg Rect.ofSize same.size

theorem rowBytes : other.rowBytes = frame.rowBytes := congrArg Size.rowBytes same.size

theorem row {y : Nat} (below : y < frame.size.height.toNat) :
    other.row y store = frame.row y store :=
  (same.layout.pixels_eq_iff_rows same.otherLayout same.size).mp same.pixels y below

theorem view {point : Point} (inside : frame.bounds.contains point = true) :
    other.view store point = frame.view store point :=
  same.layout.view_of_rows same.otherLayout same.size (fun _ => same.row) inside

theorem isBlack_eq : other.isBlack store = frame.isBlack store := by
  have swept : sweepAny (other.rowIsLit store) frame.size.height.toNat 0 =
      sweepAny (frame.rowIsLit store) frame.size.height.toNat 0 := by
    refine sweepAny_congr fun y _ below => ?_
    rw [rowIsLit, rowIsLit, same.row (by omega)]
  rw [isBlack, isBlack, same.size, swept]

theorem looksLike_eq (third : Frame) : other.looksLike third store = frame.looksLike third store := by
  have swept : sweepAny (other.rowDiffers third store) frame.size.height.toNat 0 =
      sweepAny (frame.rowDiffers third store) frame.size.height.toNat 0 := by
    refine sweepAny_congr fun y _ below => ?_
    rw [rowDiffers, rowDiffers, same.row (by omega)]
  rw [looksLike, looksLike, same.size, same.rowBytes, swept]

theorem likened_eq (third : Frame) : third.looksLike other store = third.looksLike frame store := by
  rw [looksLike, looksLike, same.size]
  split
  next => rfl
  next alike =>
    have swept : sweepAny (third.rowDiffers other store) third.size.height.toNat 0 =
        sweepAny (third.rowDiffers frame store) third.size.height.toNat 0 := by
      refine sweepAny_congr fun y _ below => ?_
      rw [Decidable.not_not.mp alike] at below
      rw [rowDiffers, rowDiffers, same.row (by omega)]
    rw [swept]

theorem isBlank_eq (blank : Color) :
    Blank.isBlank other blank store = Blank.isBlank frame blank store := by
  obtain ⟨answer, answered, exact⟩ := same.layout.isBlank_exact blank
  obtain ⟨otherAnswer, otherAnswered, otherExact⟩ := same.otherLayout.isBlank_exact blank
  have samples : other.IsSample = frame.IsSample := by
    funext point
    simp only [IsSample, centre, pixelCount, pixelAt, same.size]
  rw [answered, otherAnswered, Except.ok.injEq, Bool.eq_iff_iff, exact, otherExact, same.size, samples]
  refine or_congr_right' fun solid => forall₂_congr fun point isSample => not_congr ?_
  rw [Differs, Differs, same.view (isSample.contained (Bool.not_eq_true _ ▸ solid))]

theorem compareOld_eq {third : Frame} (thirdLayout : third.Layout store) (rect : Rect)
    (output : Region) : Changes.compare other third store rect output =
      Changes.compare frame third store rect output := by
  refine Changes.compare_congr same.layout.fits thirdLayout.fits same.otherLayout.fits thirdLayout.fits
    same.size rfl fun point contained => ?_
  rw [Rect.contains_meet, Bool.and_eq_true] at contained
  rw [same.view contained.2]

theorem compareNew_eq {third : Frame} (thirdLayout : third.Layout store) (rect : Rect)
    (output : Region) : Changes.compare third other store rect output =
      Changes.compare third frame store rect output := by
  by_cases size : third.size = frame.size
  next =>
    refine Changes.compare_congr thirdLayout.fits same.layout.fits thirdLayout.fits
      same.otherLayout.fits rfl same.size fun point contained => ?_
    rw [Rect.contains_meet, Bool.and_eq_true] at contained
    rw [same.view (by rw [Frame.bounds, ← size]; exact contained.2)]
  next =>
    simp only [Changes.compare, same.size, ne_eq, size, not_false_iff, if_true]
    rfl

theorem corner_alike {rect : Rect} (inside : frame.bounds.encloses rect = true)
    (solid : rect.isEmpty = false) : (frame.corner store rect.topLeft).Alike
      (other.corner store rect.topLeft) (rect.right - rect.left).toNat
        (rect.bottom - rect.top).toNat where
  room := same.layout.fits.corner_hasRoom inside solid
  otherRoom := same.otherLayout.fits.corner_hasRoom (same.bounds ▸ inside) solid
  pixels x y column row := by
    have edges := bounds_encloses_iff.mp inside
    rw [frame.pixel_corner store edges.1.1 edges.2.1, other.pixel_corner store edges.1.1 edges.2.1]
    refine same.view ?_
    rw [bounds_contains_iff]
    simp only [Rect.topLeft]
    omega

theorem drawTurned_eq (target : Frame) (rect : Rect) (rotation : Rotation) (offset : Point) :
    target.drawTurned other rect rotation offset store =
      target.drawTurned frame rect rotation offset store := by
  cases turning : rotation.turnRect frame.size rect with
  | error fault => rw [drawTurned, drawTurned, same.size, turning, Checked.error_bind, Checked.error_bind]
  | ok turned =>
    cases shifting : turned.shift offset with
    | error fault =>
      rw [drawTurned, drawTurned, same.size, turning, Checked.ok_bind, Checked.ok_bind, shifting,
        Checked.error_bind, Checked.error_bind]
    | ok landing =>
      have landed : rotation.landing frame.size offset rect = .ok landing :=
        Rotation.landing_eq_ok_iff.mpr ⟨turned, turning, shifting⟩
      by_cases drawn : landing.isEmpty = false ∧ frame.bounds.encloses rect = true
      next =>
        have solid : rect.isEmpty = false := Rotation.landing_isEmpty landed ▸ drawn.1
        rw [Frame.drawTurned_landed same.layout.fits landed drawn.2 solid,
          Frame.drawTurned_landed same.otherLayout.fits (same.size ▸ landed) (same.bounds ▸ drawn.2)
            solid, (same.corner_alike drawn.2 solid).turnBlock_eq_turnBlock rotation]
      next =>
        rw [drawTurned, drawTurned, same.size, same.bounds, turning, Checked.ok_bind, Checked.ok_bind,
          shifting, Checked.ok_bind, Checked.ok_bind]
        cases hollow : landing.isEmpty with
        | true => rfl
        | false =>
          have outside : frame.bounds.encloses rect = false :=
            Bool.not_eq_true _ ▸ fun inside => drawn ⟨hollow, inside⟩
          rw [outside]
          rfl

theorem copyPixels_eq (target : Frame) {position : Point} {rect : Rect}
    (offered : frame.Offers position rect) : target.copyPixels other position rect store =
      target.copyPixels frame position rect store := by
  obtain ⟨column, row, inside⟩ := offered
  rw [copyPixels, copyPixels, same.layout.planeAt_eq column row,
    same.otherLayout.planeAt_eq (same.size ▸ column) (same.size ▸ row), Checked.ok_bind, Checked.ok_bind]
  unfold copyRows
  split
  next => rfl
  next =>
    split
    next => rfl
    next solid =>
      rw [Bool.not_eq_true, Rect.isEmpty_eq_false_iff] at solid
      have alike := same.corner_alike inside (by
        rw [Rect.isEmpty_eq_false_iff]
        simp only [Rect.moved]
        omega)
      have corner : (rect.moved ⟨position.x - rect.left, position.y - rect.top⟩).topLeft = position := by
        obtain ⟨x, y⟩ := position
        simp only [Rect.moved, Rect.topLeft, Point.mk.injEq]
        omega
      rw [corner] at alike
      simp only [Rect.moved, Int.add_sub_add_right] at alike
      rw [putRows_congr alike]

theorem duplicate_eq : other.duplicate store = (frame.duplicate store).map fun made =>
    (made.1.map fun copy => { copy with info := other.info }, made.2) := by
  rcases Nat.lt_or_ge allocationLimit frame.size.packedBytes with full | room
  next =>
    rw [same.layout.duplicate_refused full, same.otherLayout.duplicate_refused (same.size ▸ full), same.size]
    rfl
  next =>
    obtain ⟨bytes, found, _, copied⟩ := same.layout.duplicate_eq room
    obtain ⟨bytes', found', _, copied'⟩ := same.otherLayout.duplicate_eq (same.size ▸ room)
    cases found'.symm.trans (same.pixels.trans found)
    rw [copied, copied', same.size, same.rowBytes]
    rfl

theorem indistinguishable : Indistinguishable frame other store where
  isBlack := same.isBlack_eq
  isBlank := same.isBlank_eq
  likened := same.likened_eq
  looksLike := same.looksLike_eq
  compareOld _ := same.compareOld_eq
  compareNew _ := same.compareNew_eq
  duplicate := same.duplicate_eq
  drawTurned := same.drawTurned_eq
  copyPixels target _ _ := same.copyPixels_eq target

end ShowsSame

theorem pixels_decide {frame other : Frame} {store : Store} (layout : frame.Layout store)
    (otherLayout : other.Layout store) :
    (other.size = frame.size → other.pixels store = frame.pixels store →
      Indistinguishable frame other store) ∧
    (∃ answer, frame.looksLike other store = .ok answer ∧ (answer = true ↔
      other.size = frame.size ∧ other.pixels store = frame.pixels store)) ∧
    ∃ answer, frame.isBlack store = .ok answer ∧ (answer = true ↔
      frame.size.isEmpty = false ∧ frame.pixels store = .ok (Bytes.zeros frame.size.packedBytes)) := by
  refine ⟨fun size pixels => ShowsSame.indistinguishable ⟨layout, otherLayout, size, pixels⟩, ?_, ?_⟩
  next =>
    obtain ⟨answer, looked⟩ := layout.looksLike_answers otherLayout
    have exact := layout.looksLike_eq_true_iff otherLayout
    rw [looked, Except.ok.injEq] at exact
    exact ⟨answer, looked, exact⟩
  next =>
    obtain ⟨answer, looked⟩ := layout.isBlack_answers
    have exact := layout.isBlack_eq_true_iff
    rw [looked, Except.ok.injEq] at exact
    exact ⟨answer, looked, exact⟩

def columns : Store := ⟨#[⟨.heap, #[1, 2, 3, 4, 5, 6, 7, 8]⟩,
  ⟨.external, #[9, 9, 9, 9, 1, 2, 3, 4, 9, 9, 9, 9, 9, 9, 9, 9, 5, 6, 7, 8, 9, 9, 9, 9]⟩,
  ⟨.heap, #[0, 0, 0, 0]⟩], #[], #[]⟩

def packedColumn : Frame := .onBuffer ⟨1, 2⟩ 4 0

def cutColumn : Frame := { onBuffer ⟨1, 2⟩ 12 1 with offset := 4, wrapping := .crop, isCropped := true }

def onePixel : Frame := .onBuffer ⟨1, 1⟩ 4 2

theorem columns_show_same : packedColumn.ShowsSame cutColumn columns where
  layout := ⟨by decide, by decide, by decide, by decide, by decide, fun _ => by decide, by decide⟩
  otherLayout := ⟨by decide, by decide, by decide, by decide, by decide, nofun, by decide⟩
  size := rfl
  pixels := by decide +kernel

theorem pixels_decide_columns : packedColumn.stride ≠ cutColumn.stride ∧
    cutColumn.pixels columns = .ok #[1, 2, 3, 4, 5, 6, 7, 8] ∧
    packedColumn.Layout columns ∧ cutColumn.Layout columns ∧
    Indistinguishable packedColumn cutColumn columns ∧
    packedColumn.looksLike cutColumn columns = .ok true ∧ packedColumn.isBlack columns = .ok false := by
  obtain ⟨layout, otherLayout, size, pixels⟩ := columns_show_same
  obtain ⟨alike, _, _⟩ := pixels_decide layout otherLayout
  exact ⟨by decide, by decide +kernel, layout, otherLayout, alike size pixels, by decide +kernel,
    by decide +kernel⟩

-- Below the last row there is room for no pixels at all, but only one of the two has bytes up to there.
theorem copyPixels_below_columns : packedColumn.ShowsSame cutColumn columns ∧
    packedColumn.bounds.encloses (Rect.moved ⟨0, 2⟩ ⟨0, 0, 0, 0⟩) = true ∧
    onePixel.copyPixels packedColumn ⟨0, 2⟩ ⟨0, 0, 0, 0⟩ columns = .ok columns ∧
    onePixel.copyPixels cutColumn ⟨0, 2⟩ ⟨0, 0, 0, 0⟩ columns = .error .outOfBounds :=
  ⟨columns_show_same, by decide, rfl, rfl⟩

end Frame

end ScreenCapture
