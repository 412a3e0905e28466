import ScreenCapture.Pipeline.Basic
import ScreenCapture.Proofs.Changes.Replay
import ScreenCapture.Proofs.Layout.Upkeep
import ScreenCapture.Proofs.Pixels.Painting
import ScreenCapture.Proofs.Region.Area
import ScreenCapture.Proofs.Rotation.Composition

set_option autoImplicit false

namespace ScreenCapture

namespace Picture

def part (picture : Picture) (area : Rect) : Picture where
  size := ⟨area.right - area.left, area.bottom - area.top⟩
  color point := picture.color ⟨point.x + area.left, point.y + area.top⟩

def turned (picture : Picture) (rotation : Rotation) : Picture where
  size := rotation.turnSize picture.size
  color point := picture.color (rotation.reverse.turnedPoint (rotation.turnSize picture.size) point)

theorem part_bounds (picture : Picture) : picture.part picture.bounds = picture := by
  simp only [part, bounds, Rect.ofSize, Int.sub_zero, Int.add_zero]

theorem turned_color (picture : Picture) (rotation : Rotation) (point : Point) :
    (picture.turned rotation).color (rotation.turnedPoint picture.size point) =
      picture.color point := by
  simp only [turned]
  rw [rotation.turnedPoint_plus, Rotation.plus_reverse, Rotation.turnedPoint_deg0]

end Picture

namespace Frame

structure Shows (frame : Frame) (picture : Picture) (store : Store) : Prop where
  size : frame.size = picture.size
  pixels : picture.ShownBy (frame.view store)

variable {frame source cropped drawn : Frame} {picture : Picture} {store next : Store} {visible : Rect}
  {rotation : Rotation}

namespace Shows

theorem congr (shows : frame.Shows picture store)
    (same : next.bytes frame.buffer = store.bytes frame.buffer) : frame.Shows picture next :=
  ⟨shows.size, by rw [view_congr same]; exact shows.pixels⟩

theorem withInfo (shows : frame.Shows picture store) (info : FrameInfo) :
    Shows { frame with info } picture store :=
  ⟨shows.size, shows.pixels⟩

theorem share (shows : frame.Shows picture store) :
    (frame.share store).1.Shows picture (frame.share store).2 :=
  ⟨(frame.share_size store).trans shows.size, by
    rw [view_eq_of_plane (frame.share_plane store)]
    exact shows.pixels⟩

theorem part (shows : frame.Shows picture store) (isPart : cropped.IsPart frame visible)
    (inside : frame.bounds.encloses visible = true) : cropped.Shows (picture.part visible) store := by
  have edges := bounds_encloses_iff.mp inside
  refine ⟨isPart.size, fun point contained => ?_⟩
  have within : cropped.bounds.contains point = true := by
    rw [bounds, isPart.size]
    exact contained
  rw [isPart.view edges.1.1 edges.2.1 within]
  refine shows.pixels _ ?_
  rw [Picture.bounds, ← shows.size]
  rw [Picture.bounds, Rect.contains_iff] at contained
  simp only [Picture.part, Rect.ofSize] at contained
  rw [Rect.contains_iff]
  simp only [Rect.ofSize]
  omega

theorem drawTurned (shows : source.Shows picture store) (sourceFits : source.Fits store)
    (fits : frame.Fits store) (size : frame.size = rotation.turnSize source.size)
    (solid : source.bounds.isEmpty = false)
    (ran : frame.drawTurned source source.bounds rotation .zero store = .ok (drawn, next)) :
    (∃ updated, drawn = frame.withUpdated updated) ∧ drawn.Shows (picture.turned rotation) next ∧
      (next.bytes frame.buffer).size = (store.bytes frame.buffer).size := by
  have whole : source.bounds.encloses source.bounds = true := by
    rw [Rect.encloses_iff]
    omega
  have landed := rotation.landing_zero sourceFits.width.2 sourceFits.height.2 whole solid
  obtain ⟨target, landed', outcome⟩ := drawTurned_eq_ok ran
  obtain rfl := Except.ok.inj (landed.symm.trans landed')
  have filled := solid
  rw [← rotation.turned_isEmpty source.size] at filled
  obtain ⟨_, _, _, writable⟩ := outcome.resolve_left fun hollow => by simp [filled] at hollow
  obtain ⟨_, bytes, length, equal, moved⟩ :=
    drawTurned_whole sourceFits fits size writable whole solid
  cases ran.symm.trans equal
  have known := isEmpty_of_encloses ((drawTurned_whole sourceFits fits size writable whole solid).1)
    filled
  refine ⟨⟨_, rfl⟩, ⟨size.trans (by rw [shows.size]; rfl), fun point contained => ?_⟩, ?_⟩
  next =>
    have within : (rotation.turned source.size source.bounds).contains point = true := by
      have same : rotation.turned source.size source.bounds =
          (picture.turned rotation).bounds := by
        rw [Picture.bounds, Picture.turned, ← shows.size]
        cases rotation <;> simp [Rotation.turned, bounds, Rect.ofSize, Rotation.turnSize]
      rw [same]
      exact contained
    obtain ⟨origin, inside, rfl⟩ := rotation.exists_turnedPoint source.size source.bounds point within
    rw [shows.size, Picture.turned_color, ← shows.size]
    refine (moved origin inside).trans (shows.pixels origin ?_)
    rw [Picture.bounds, ← shows.size]
    exact inside
  next =>
    rw [fits.bytes_setBytes known]
    exact length

end Shows

end Frame

namespace Settings

variable (settings : Settings) (sequence : Nat)

def screen : Rect := .ofSize settings.frameSize

def blockOf : Rect := (settings.pattern.blockAt settings.frameSize sequence).toOption.getD .zero

def picture : Picture where
  size := settings.frameSize
  color point := if (settings.blockOf sequence).contains point then Pattern.color else .blank

def hint : (sequence : Nat) → Region
  | 0 => .ofRect (settings.blockOf 0)
  | before + 1 => (Region.ofRect (settings.blockOf (before + 1))).insert (settings.blockOf before)

def visible : Rect := settings.screen.meet settings.crop

def output : Picture := ((settings.picture sequence).part settings.visible).turned settings.rotation

def Alters (before : Nat) (area : Rect) : Prop :=
  ∃ point ∈ area.cells,
    (settings.picture before).color point ≠ (settings.picture (before + 1)).color point

instance (before : Nat) (area : Rect) : Decidable (settings.Alters before area) :=
  inferInstanceAs (Decidable (∃ _ ∈ _, _))

-- Whether a point counts as updated in the next picture: its block in a hinted rectangle is not the
-- same in both.
def Revises (before : Nat) (point : Point) : Prop :=
  ∃ hint ∈ (settings.hint (before + 1)).rects,
    (hint.meet settings.screen).contains point = true ∧
      settings.Alters before (Changes.blockAt (hint.meet settings.screen) point)

instance (before : Nat) : DecidablePred (settings.Revises before) := fun _ =>
  inferInstanceAs (Decidable (∃ _ ∈ _, _))

def updates : (sequence : Nat) → Finset Point
  | 0 => settings.screen.cells
  | before + 1 => settings.screen.cells.filter (settings.Revises before)

variable {settings sequence} {before : Nat} {point : Point}

theorem blockOf_eq {block : Rect}
    (found : settings.pattern.blockAt settings.frameSize sequence = .ok block) :
    settings.blockOf sequence = block := by
  rw [blockOf, found]
  rfl

theorem updates_subset : settings.updates sequence ⊆ settings.screen.cells := by
  cases sequence with
  | zero => exact Finset.Subset.refl _
  | succ before => exact Finset.filter_subset _ _

theorem updates_subset_blocks : settings.updates (before + 1) ⊆
    (settings.blockOf before).cells ∪ (settings.blockOf (before + 1)).cells := by
  intro point updated
  obtain ⟨_, hint, member, within, _⟩ := Finset.mem_filter.mp updated
  rw [Rect.contains_meet, Bool.and_eq_true] at within
  have hinted := (Region.contains_iff _ _).mpr ⟨hint, member, within.1⟩
  rw [Settings.hint, Region.contains_insert, Region.contains_ofRect,
    Bool.or_eq_true, ← Rect.mem_cells, ← Rect.mem_cells] at hinted
  rw [Finset.mem_union]
  exact hinted.symm

theorem mem_updates_of_ne (inside : point ∈ settings.screen.cells)
    (differ : (settings.picture (before + 1)).color point ≠ (settings.picture before).color point) :
    point ∈ settings.updates (before + 1) := by
  have hinted : (settings.hint (before + 1)).contains point = true := by
    rw [Settings.hint, Region.contains_insert, Region.contains_ofRect,
      Bool.or_eq_true]
    apply Classical.byContradiction
    intro neither
    rw [not_or] at neither
    simp [picture, neither] at differ
  obtain ⟨hint, member, within⟩ := (Region.contains_iff _ _).mp hinted
  have both : (hint.meet settings.screen).contains point = true := by
    rw [Rect.contains_meet, within, Rect.mem_cells.mp inside]
    rfl
  refine Finset.mem_filter.mpr ⟨inside, hint, member, both, point, ?_, differ.symm⟩
  exact Rect.mem_cells.mpr (Changes.blockAt_contains both)

theorem blockOf_subset : (settings.blockOf sequence).cells ⊆ settings.screen.cells := by
  have within : settings.blockOf sequence = .zero ∨
      settings.screen.encloses (settings.blockOf sequence) = true := by
    cases found : settings.pattern.blockAt settings.frameSize sequence with
    | error fault =>
      apply Or.inl
      rw [blockOf, found]
      rfl
    | ok block =>
      rw [blockOf_eq found]
      exact (Pattern.blockAt_eq_ok found).imp_right And.right
  intro point member
  rw [Rect.mem_cells] at member ⊢
  rcases within with none | inside
  next =>
    have empty : Rect.zero.isEmpty = true := rfl
    rw [none, Rect.contains_of_isEmpty empty] at member
    cases member
  next => exact Rect.contains_of_encloses inside member

theorem updates_eq_of_disjoint
    (apart : Disjoint (settings.blockOf before).cells (settings.blockOf (before + 1)).cells) :
    settings.updates (before + 1) =
      (settings.blockOf before).cells ∪ (settings.blockOf (before + 1)).cells := by
  have differ (point : Point) (other : (settings.blockOf (before + 1)).contains point ≠
        (settings.blockOf before).contains point) :
      (settings.picture (before + 1)).color point ≠ (settings.picture before).color point := by
    simp only [picture]
    cases is : (settings.blockOf (before + 1)).contains point
    all_goals
      cases was : (settings.blockOf before).contains point
      all_goals simp [is, was, Pattern.color, Color.blank, Color.solid] at other ⊢
  rw [Rect.disjoint_cells_iff] at apart
  refine updates_subset_blocks.antisymm fun point member => ?_
  rcases Finset.mem_union.mp member with old | new
  next =>
    refine mem_updates_of_ne (blockOf_subset old) (differ point ?_)
    rw [Rect.mem_cells] at old
    rw [old, apart point old]
    exact Bool.false_ne_true
  next =>
    refine mem_updates_of_ne (blockOf_subset new) (differ point fun same => ?_)
    rw [Rect.mem_cells] at new
    have gone := apart point (same.symm.trans new)
    exact Bool.false_ne_true (gone.symm.trans new)

end Settings

structure Frame.Carries (frame : Frame) (settings : Settings) (sequence : Nat) (store : Store) :
    Prop where
  shows : frame.Shows (settings.picture sequence) store
  placed : settings.pattern.blockAt settings.frameSize sequence = .ok (settings.blockOf sequence)
  canonical : frame.info.updated.Canonical
  updated : frame.info.updated.cells = settings.updates sequence

namespace Frame.Carries

variable {frame : Frame} {settings : Settings} {sequence : Nat} {store next : Store}
  (carries : frame.Carries settings sequence store)

include carries

theorem congr (same : next.bytes frame.buffer = store.bytes frame.buffer) :
    frame.Carries settings sequence next :=
  { carries with shows := carries.shows.congr same }

theorem withInfo {info : FrameInfo} (same : info.updated = frame.info.updated) :
    Carries { frame with info } settings sequence store where
  shows := carries.shows.withInfo info
  placed := carries.placed
  canonical := same ▸ carries.canonical
  updated := same ▸ carries.updated

theorem share : (frame.share store).1.Carries settings sequence (frame.share store).2 where
  shows := carries.shows.share
  placed := carries.placed
  canonical := (frame.share_info store).symm ▸ carries.canonical
  updated := (frame.share_info store).symm ▸ carries.updated

theorem bounds_eq : frame.bounds = settings.screen := congrArg Rect.ofSize carries.shows.size

theorem updated_subset : frame.info.updated.cells ⊆ frame.bounds.cells := by
  rw [carries.updated, carries.bounds_eq]
  exact Settings.updates_subset

theorem encloses_visible (solid : settings.visible.isEmpty = false) :
    frame.bounds.encloses settings.visible = true := by
  rw [carries.bounds_eq]
  exact Region.encloses_meet _ solid

end Frame.Carries

end ScreenCapture
