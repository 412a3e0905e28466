import ScreenCapture.Proofs.Cursor.Drawing
import ScreenCapture.Proofs.Pipeline.Supply

set_option autoImplicit false

namespace ScreenCapture

namespace Color

end Color

namespace CursorBitmaps

variable {bitmaps : CursorBitmaps} {image : Frame} {store next : Store} {x y : Nat}

def maskAt (bitmaps : CursorBitmaps) : Nat → Nat → Color :=
  (Plane.packed bitmaps.mask bitmaps.width.toNat).pixel

def colorAt (bitmaps : CursorBitmaps) : Nat → Nat → Color := bitmaps.colorPlane.pixel

def Somewhere (bitmaps : CursorBitmaps) (holds : Nat → Nat → Prop) : Prop :=
  Plane.Somewhere bitmaps.width.toNat bitmaps.imageHeight.toNat holds

instance (bitmaps : CursorBitmaps) (holds : Nat → Nat → Prop) [∀ x y, Decidable (holds x y)] :
    Decidable (bitmaps.Somewhere holds) :=
  inferInstanceAs (Decidable (Plane.Somewhere _ _ _))

def InImage (bitmaps : CursorBitmaps) (x y : Nat) : Prop :=
  x < bitmaps.width.toNat ∧ y < bitmaps.imageHeight.toNat

instance (bitmaps : CursorBitmaps) (x y : Nat) : Decidable (bitmaps.InImage x y) :=
  inferInstanceAs (Decidable (_ ∧ _))

def IsTranslucent (bitmaps : CursorBitmaps) : Prop :=
  bitmaps.colors.isSome = true ∧ bitmaps.Somewhere fun x y => (bitmaps.colorAt x y).alpha ≠ 0

instance (bitmaps : CursorBitmaps) : Decidable bitmaps.IsTranslucent :=
  inferInstanceAs (Decidable (_ ∧ _))

def Inverts (bitmaps : CursorBitmaps) : Prop :=
  bitmaps.Somewhere fun x y =>
    (bitmaps.maskAt x y).isMasked = true ∧ bitmaps.colorAt x y ≠ .clear

instance (bitmaps : CursorBitmaps) : Decidable bitmaps.Inverts :=
  inferInstanceAs (Decidable (bitmaps.Somewhere _))

structure Typed (bitmaps : CursorBitmaps) : Prop where
  width : IsCoordinate bitmaps.width
  height : IsCoordinate bitmaps.height
  mask : bitmaps.mask.size ≤ allocationLimit
  colors : ∀ colors ∈ bitmaps.colors, colors.size ≤ allocationLimit

structure Usable (bitmaps : CursorBitmaps) : Prop where
  wide : 0 < bitmaps.width
  high : 0 < bitmaps.height
  mask : 4 * bitmaps.width * bitmaps.height ≤ (bitmaps.mask.size : Int)
  colors : ∀ colors ∈ bitmaps.colors, 4 * bitmaps.width * bitmaps.height ≤ (colors.size : Int)
  rows : bitmaps.colors = none → 2 ≤ bitmaps.height
  across : 0 ≤ bitmaps.hotspot.x ∧ bitmaps.hotspot.x < bitmaps.width
  down : 0 ≤ bitmaps.hotspot.y ∧
    bitmaps.hotspot.y < if bitmaps.colors.isSome then bitmaps.height else bitmaps.height / 2

def rawAt (bitmaps : CursorBitmaps) : Nat → Nat → Color :=
  let unmasked x y := (bitmaps.maskAt x y).unmask (bitmaps.colorAt x y)
  if bitmaps.IsTranslucent then bitmaps.colorAt
  else if bitmaps.Inverts then
    Plane.outlined bitmaps.width.toNat bitmaps.imageHeight.toNat unmasked
  else unmasked

theorem isInverting_iff {mask color : Color} :
    mask.isInverting color = true ↔ mask.isMasked = true ∧ color ≠ .clear := by
  rw [Color.isInverting, Bool.and_eq_true, bne_iff_ne]

section Shades

variable (plain : ∀ x y, bitmaps.InImage x y → (bitmaps.colorAt x y).alpha = 0)
  (inside : bitmaps.InImage x y)

include plain inside

end Shades

theorem hasRoom_rows {bytes : Bytes} {start width height : Nat} (some : 0 < height)
    (memory : bytes.size ≤ allocationLimit)
    (room : start + height * (width * bytesPerPixel) ≤ bytes.size) :
    Plane.HasRoom ⟨bytes, start, width * bytesPerPixel⟩ width height := by
  refine ⟨?_, Nat.lt_of_le_of_lt memory (by decide)⟩
  have rows : height * (width * bytesPerPixel) =
      (height - 1) * (width * bytesPerPixel) + width * bytesPerPixel := by
    rw [← Nat.add_one_mul, Nat.sub_add_cancel some]
  dsimp only
  omega

theorem check_eq_ok_iff : bitmaps.check = .ok () ↔ (0 < bitmaps.width ∧ 0 < bitmaps.height) ∧
    bitmaps.maskBytes ≤ bitmaps.mask.size ∧
      (∀ colors ∈ bitmaps.colors, bitmaps.maskBytes ≤ colors.size) ∧
        (bitmaps.colors = none → 2 ≤ bitmaps.height) := by
  unfold check
  by_cases hollow : bitmaps.width ≤ 0 ∨ bitmaps.height ≤ 0
  next =>
    rw [if_pos hollow]
    exact iff_of_false nofun (by omega)
  next =>
    rw [if_neg hollow]
    by_cases short : bitmaps.mask.size < bitmaps.maskBytes
    next =>
      rw [if_pos short]
      exact iff_of_false nofun (by omega)
    next =>
      rw [if_neg short, checkColors]
      cases colors : bitmaps.colors with
      | some colors =>
        simp only [Option.mem_def, Option.some.injEq, forall_eq', reduceCtorEq, false_implies, and_true]
        split
        next few => exact iff_of_false nofun (by omega)
        next => exact iff_of_true rfl ⟨by omega, by omega, by omega⟩
      | none =>
        have half : bitmaps.imageHeight = bitmaps.height / 2 := by
          rw [imageHeight, colors]
          rfl
        simp only [Option.mem_def, reduceCtorEq, false_implies, implies_true, true_and, true_implies, half]
        split
        next low => exact iff_of_false nofun (by omega)
        next => exact iff_of_true rfl ⟨by omega, by omega, by omega⟩

theorem maskBytes_le_iff (wide : 0 < bitmaps.width) (high : 0 < bitmaps.height) {count : Nat} :
    bitmaps.maskBytes ≤ count ↔ 4 * bitmaps.width * bitmaps.height ≤ (count : Int) := by
  obtain ⟨width, across⟩ := Int.eq_ofNat_of_zero_le (Int.le_of_lt wide)
  obtain ⟨height, down⟩ := Int.eq_ofNat_of_zero_le (Int.le_of_lt high)
  rw [maskBytes, rowBytes, across, down, Int.toNat_natCast, Int.toNat_natCast, Nat.mul_comm width]
  norm_cast

theorem usable_iff : bitmaps.Usable ↔ bitmaps.check = .ok () ∧
    (0 ≤ bitmaps.hotspot.x ∧ bitmaps.hotspot.x < bitmaps.width) ∧
      0 ≤ bitmaps.hotspot.y ∧ bitmaps.hotspot.y < bitmaps.imageHeight := by
  rw [check_eq_ok_iff]
  constructor
  next =>
    intro usable
    refine ⟨⟨⟨usable.wide, usable.high⟩, ?_, ?_, usable.rows⟩, usable.across, usable.down⟩
    next => exact (maskBytes_le_iff usable.wide usable.high).mpr usable.mask
    next => exact fun colors own => (maskBytes_le_iff usable.wide usable.high).mpr (usable.colors _ own)
  next =>
    intro ⟨⟨⟨wide, high⟩, mask, colors, rows⟩, across, down⟩
    exact ⟨wide, high, (maskBytes_le_iff wide high).mp mask,
      fun _ own => (maskBytes_le_iff wide high).mp (colors _ own), rows, across, down⟩

theorem checkHotspot_iff_usable (checked : bitmaps.check = .ok ()) (size : image.size = bitmaps.imageSize) :
    Cursor.checkHotspot image bitmaps.hotspot = .ok () ↔ bitmaps.Usable := by
  rw [Cursor.checkHotspot_eq_ok_iff, usable_iff, size]
  exact (and_iff_right checked).symm

section Drawing

variable {shade : Nat → Nat → Color}
  (maskRoom : (Plane.packed bitmaps.mask bitmaps.width.toNat).HasRoom bitmaps.width.toNat
    bitmaps.imageHeight.toNat)

include maskRoom

theorem applyMask_displays (masked : ¬ bitmaps.IsTranslucent)
    (displays : image.Displays bitmaps.width.toNat bitmaps.imageHeight.toNat bitmaps.colorAt store) :
    ∃ next, bitmaps.applyMask image store = .ok next ∧
      image.Displays bitmaps.width.toNat bitmaps.imageHeight.toNat bitmaps.rawAt next := by
  obtain ⟨unmasked, unmasking, displayed⟩ := displays.unmask maskRoom
  have inverts : (Plane.Somewhere bitmaps.width.toNat bitmaps.imageHeight.toNat fun x y =>
      ((Plane.packed bitmaps.mask bitmaps.width.toNat).pixel x y).isInverting (bitmaps.colorAt x y) =
        true) ↔ bitmaps.Inverts :=
    Plane.Somewhere.congr fun x y _ _ => isInverting_iff
  rw [decide_eq_decide.mpr inverts] at unmasking
  rw [applyMask, unmasking, Checked.ok_bind, rawAt, if_neg masked]
  by_cases some : bitmaps.Inverts
  next =>
    rw [decide_eq_true some, if_pos some]
    exact displayed.outline
  next =>
    rw [decide_eq_false some, if_neg some]
    exact ⟨unmasked, rfl, displayed⟩

theorem draw_displays
    (displays : image.Displays bitmaps.width.toNat bitmaps.imageHeight.toNat shade store)
    (colorRoom : bitmaps.colorPlane.HasRoom bitmaps.width.toNat bitmaps.imageHeight.toNat) :
    ∃ next, bitmaps.draw image store = .ok next ∧
      image.Displays bitmaps.width.toNat bitmaps.imageHeight.toNat
        (fun x y => (bitmaps.rawAt x y).premultiply) next := by
  obtain ⟨copied, copying, colored⟩ := displays.copyRows colorRoom
  have alpha : bitmaps.hasAlpha image copied = .ok (decide bitmaps.IsTranslucent) := by
    have found := Plane.hasAlpha_eq colored.canvas.room colored.wide colored.high
    have same : (Plane.Somewhere bitmaps.width.toNat bitmaps.imageHeight.toNat fun x y =>
        ((image.plane copied).pixel x y).alpha ≠ 0) ↔
          bitmaps.Somewhere fun x y => (bitmaps.colorAt x y).alpha ≠ 0 :=
      Plane.Somewhere.congr fun x y column row => by
        rw [colored.pixels x y column row]
        rfl
    unfold hasAlpha
    split
    next own =>
      rw [found, Except.ok.injEq, decide_eq_decide, same]
      exact (and_iff_right own).symm
    next mono => rw [decide_eq_false fun translucent => mono translucent.1]
  rw [draw, copying, Checked.ok_bind, alpha, Checked.ok_bind]
  by_cases translucent : bitmaps.IsTranslucent
  next =>
    have raw : bitmaps.rawAt = bitmaps.colorAt := if_pos translucent
    rw [decide_eq_true translucent, raw]
    exact colored.premultiply
  next =>
    obtain ⟨masked, masking, displayed⟩ := applyMask_displays maskRoom translucent colored
    rw [decide_eq_false translucent, masking]
    exact displayed.premultiply

end Drawing

section Image

variable (checked : bitmaps.check = .ok ())

include checked

theorem imageHeight_pos : 0 < bitmaps.imageHeight ∧ bitmaps.imageHeight ≤ bitmaps.height := by
  obtain ⟨⟨_, high⟩, _, _, rows⟩ := check_eq_ok_iff.mp checked
  unfold imageHeight
  cases colors : bitmaps.colors with
  | some _ => exact ⟨high, Int.le_refl _⟩
  | none =>
    have two := rows colors
    simp only [Option.isSome_none, Bool.false_eq_true, if_false]
    omega

theorem imageBytes_le : bitmaps.imageHeight.toNat * bitmaps.rowBytes ≤ bitmaps.maskBytes := by
  have ⟨_, low⟩ := imageHeight_pos checked
  rw [maskBytes, Nat.mul_comm bitmaps.rowBytes]
  exact Nat.mul_le_mul_right _ (by omega)

variable (typed : bitmaps.Typed)

include typed

theorem maskRoom : (Plane.packed bitmaps.mask bitmaps.width.toNat).HasRoom bitmaps.width.toNat
    bitmaps.imageHeight.toNat := by
  obtain ⟨_, mask, _, _⟩ := check_eq_ok_iff.mp checked
  have ⟨positive, _⟩ := imageHeight_pos checked
  have image := imageBytes_le checked
  refine hasRoom_rows (by omega) typed.mask ?_
  rw [Nat.zero_add]
  exact Nat.le_trans image mask

theorem colorRoom :
    bitmaps.colorPlane.HasRoom bitmaps.width.toNat bitmaps.imageHeight.toNat := by
  obtain ⟨_, mask, enough, rows⟩ := check_eq_ok_iff.mp checked
  have ⟨positive, _⟩ := imageHeight_pos checked
  have image := imageBytes_le checked
  unfold colorPlane
  split
  next colors own =>
    refine hasRoom_rows (by omega) (typed.colors colors own) ?_
    rw [Nat.zero_add]
    exact Nat.le_trans image (enough colors own)
  next none =>
    refine hasRoom_rows (by omega) typed.mask ?_
    have half : bitmaps.imageHeight.toNat + bitmaps.imageHeight.toNat ≤ bitmaps.height.toNat := by
      rw [imageHeight, none]
      simp only [Option.isSome_none, Bool.false_eq_true, if_false]
      omega
    have twice := Nat.mul_le_mul_right bitmaps.rowBytes half
    rw [Nat.add_mul, Nat.mul_comm bitmaps.height.toNat] at twice
    rw [Nat.mul_comm bitmaps.rowBytes]
    exact Nat.le_trans twice mask

theorem createOnHeap_displays : ∃ image reserved shade,
    Frame.createOnHeap bitmaps.imageSize store = (.ok image, reserved) ∧
      image.size = bitmaps.imageSize ∧
      image.Displays bitmaps.width.toNat bitmaps.imageHeight.toNat shade reserved := by
  obtain ⟨⟨wide, _⟩, mask, _, _⟩ := check_eq_ok_iff.mp checked
  have ⟨positive, low⟩ := imageHeight_pos checked
  have room : bitmaps.imageSize.packedBytes ≤ allocationLimit := by
    have image := imageBytes_le checked
    rw [Nat.mul_comm] at image
    exact Nat.le_trans image (Nat.le_trans mask typed.mask)
  have made : Frame.createOnHeap bitmaps.imageSize store = _ :=
    Frame.createOnHeap_answers ⟨Int.le_of_lt wide, Int.le_of_lt positive⟩ room
  have tall : IsCoordinate bitmaps.imageHeight := by
    have limit := typed.height
    unfold IsCoordinate at limit ⊢
    omega
  refine ⟨_, _, _, made, rfl, rfl, rfl, ⟨Int.lt_toNat.mpr wide, Int.lt_toNat.mpr positive⟩,
    Frame.createOnHeap_layout ⟨typed.width, tall⟩ made, rfl, fun _ _ _ _ => rfl⟩

end Image

theorem cursor_of_error {reason : String} (refused : bitmaps.check = .error reason) :
    bitmaps.cursor store = .ok (.error (.invalidCursorBitmap reason), store) := by
  simp only [cursor, refused, pure, Except.pure]

theorem cursor_of_ok {reserved drawn : Store} (checked : bitmaps.check = .ok ())
    (made : Frame.createOnHeap bitmaps.imageSize store = (.ok image, reserved))
    (drawing : bitmaps.draw image reserved = .ok drawn) :
    bitmaps.cursor store = .ok (Cursor.ofImage image bitmaps.hotspot drawn) := by
  simp only [cursor, checked, made, drawing, Checked.ok_bind, pure, Except.pure]

def halfInverting : CursorBitmaps where
  width := 2
  height := 2
  mask := #[255, 255, 255, 0, 255, 255, 255, 0, 0, 0, 0, 0, 255, 255, 255, 0]
  colors := none
  hotspot := ⟨1, 0⟩

end CursorBitmaps

end ScreenCapture
