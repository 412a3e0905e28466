import ScreenCapture.Proofs.Layout.Upkeep
import ScreenCapture.Proofs.Pipeline.Pictures

set_option autoImplicit false

namespace ScreenCapture

namespace Frame

def IsCropOf (cropped frame : Frame) (visible : Rect) : Prop :=
  visible = frame.bounds ∧ cropped = frame ∨ cropped.IsPart frame visible

variable {frame cropped source drawn : Frame} {picture : Picture} {visible : Rect}
  {store next : Store} {rotation : Rotation}

theorem crop?_isCropOf {rect : Rect} (taken : frame.crop? rect store = .ok (some cropped, next)) :
    (frame.bounds.meet rect).isEmpty = false ∧ next = store ∧
      cropped.IsCropOf frame (frame.bounds.meet rect) := by
  obtain ⟨_, gone, _⟩ | ⟨solid, kept, ⟨whole, same⟩ | ⟨_, same, isPart⟩⟩ := crop?_cases taken
  next => cases gone
  next =>
    cases same
    exact ⟨solid, kept, .inl ⟨whole, rfl⟩⟩
  next =>
    cases same
    exact ⟨solid, kept, .inr isPart⟩

theorem crop?_none {rect : Rect} (taken : frame.crop? rect store = .ok (none, next)) :
    (frame.bounds.meet rect).isEmpty = true ∧ next = frame.release store := by
  obtain ⟨hollow, _, gone⟩ | ⟨_, _, ⟨_, same⟩ | ⟨_, same, _⟩⟩ := crop?_cases taken
  next => exact ⟨hollow, gone⟩
  next => cases same
  next => cases same

namespace IsCropOf

variable (isCrop : cropped.IsCropOf frame visible)

include isCrop

theorem buffer : cropped.buffer = frame.buffer := by
  rcases isCrop with ⟨_, rfl⟩ | isPart
  next => rfl
  next => exact isPart.buffer

theorem shows (shows : frame.Shows picture store) (inside : frame.bounds.encloses visible = true) :
    cropped.Shows (picture.part visible) store := by
  rcases isCrop with ⟨rfl, rfl⟩ | isPart
  next =>
    have whole : cropped.bounds = picture.bounds := congrArg Rect.ofSize shows.size
    rw [whole, Picture.part_bounds]
    exact shows
  next => exact shows.part isPart inside

theorem bounds_isEmpty (shows : frame.Shows picture store)
    (inside : frame.bounds.encloses visible = true) (solid : visible.isEmpty = false) :
    cropped.bounds.isEmpty = false := by
  rw [Rect.isEmpty_eq_false_iff] at solid ⊢
  rw [bounds, (isCrop.shows shows inside).size]
  simp only [Picture.part, Rect.ofSize]
  omega

theorem card_updated (canonical : frame.info.updated.Canonical)
    (within : frame.info.updated.cells ⊆ frame.bounds.cells) :
    cropped.info.updated.Canonical ∧
      cropped.info.updated.cells.card = (visible.cells ∩ frame.info.updated.cells).card := by
  rcases isCrop with ⟨rfl, rfl⟩ | isPart
  next => exact ⟨canonical, by rw [Finset.inter_eq_right.mpr within]⟩
  next =>
    obtain ⟨canonical, updated⟩ := FrameInfo.crop_eq_ok isPart.info
    refine ⟨canonical, ?_⟩
    let shift (point : Point) : Point := ⟨point.x + visible.left, point.y + visible.top⟩
    have apart : Function.Injective shift := by
      intro point other same
      obtain ⟨across, down⟩ := Point.mk.inj same
      obtain ⟨x, y⟩ := point
      obtain ⟨x', y'⟩ := other
      simp only [Point.mk.injEq]
      dsimp only at across down
      omega
    have shifted : visible.cells ∩ frame.info.updated.cells =
        cropped.info.updated.cells.image shift := by
      ext point
      rw [Finset.mem_inter, Finset.mem_image, Rect.mem_cells, Region.mem_cells]
      constructor
      next =>
        intro ⟨shown, changed⟩
        refine ⟨⟨point.x - visible.left, point.y - visible.top⟩, ?_, ?_⟩
        next =>
          rw [Region.mem_cells, updated]
          simp only [Int.sub_add_cancel, shown, changed, Bool.and_self]
        next => simp only [shift, Int.sub_add_cancel]
      next =>
        rintro ⟨origin, changed, rfl⟩
        rw [Region.mem_cells, updated, Bool.and_eq_true] at changed
        exact changed.symm
    rw [shifted, Finset.card_image_of_injective _ apart]

theorem area_eq_ok {settings : Settings} {sequence : Nat} {changed : Int}
    (carries : frame.Carries settings sequence store)
    (measured : cropped.info.updated.area = .ok changed) :
    changed.toNat = (visible.cells ∩ settings.updates sequence).card := by
  have ⟨canonical, card⟩ := isCrop.card_updated carries.canonical carries.updated_subset
  rw [Region.area_eq_ok canonical measured, Int.toNat_natCast, card, carries.updated]

end IsCropOf

theorem drawTurned_upkeep (sourceLayout : source.Layout store) (layout : frame.Layout store)
    (size : frame.size = rotation.turnSize source.size) (solid : source.bounds.isEmpty = false)
    (ran : frame.drawTurned source source.bounds rotation .zero store = .ok (drawn, next)) :
    Upkeep store {frame} next {drawn} := by
  have shows : source.Shows (source.picture store) store := ⟨rfl, fun _ _ => rfl⟩
  obtain ⟨⟨updated, rfl⟩, _, length⟩ :=
    shows.drawTurned sourceLayout.fits layout.fits size solid ran
  have renamed : Exchange next {frame} next {frame.withUpdated updated} := .of_chain (by rfl) next
  refine .of_exchange ((drawTurned_writes ran).1.exchange.trans renamed) fun _ => ?_
  exact LaidOut.single.mpr ((layout.congr length).withInfo _)

end Frame

end ScreenCapture
