import ScreenCapture.Proofs.Region.Points

set_option autoImplicit false

namespace ScreenCapture

namespace Rect

def Bounded (rect : Rect) : Prop :=
  (IsCoordinate rect.left ∧ IsCoordinate rect.top) ∧
    IsCoordinate rect.right ∧ IsCoordinate rect.bottom

instance (rect : Rect) : Decidable rect.Bounded :=
  inferInstanceAs (Decidable (_ ∧ _))

def moved (move : Point) (rect : Rect) : Rect :=
  ⟨rect.left + move.x, rect.top + move.y, rect.right + move.x, rect.bottom + move.y⟩

theorem shift_eq (rect : Rect) (move : Point) : rect.shift move =
    if (rect.moved move).Bounded then .ok (rect.moved move) else .error .overflow := by
  unfold shift coordinate Bounded moved
  dsimp only
  by_cases left : IsCoordinate (rect.left + move.x) <;>
    by_cases top : IsCoordinate (rect.top + move.y) <;>
      by_cases right : IsCoordinate (rect.right + move.x) <;>
        by_cases bottom : IsCoordinate (rect.bottom + move.y) <;>
          simp [left, top, right, bottom, Checked.ok_bind, Checked.error_bind, pure, Except.pure]

theorem contains_moved (rect : Rect) (move point : Point) :
    (rect.moved move).contains point = rect.contains ⟨point.x - move.x, point.y - move.y⟩ := by
  rw [Bool.eq_iff_iff, contains_iff, contains_iff]
  simp only [moved]
  omega

theorem moved_zero (rect : Rect) : rect.moved .zero = rect := by
  simp only [moved, Point.zero, Int.add_zero]

theorem moved_isEmpty (rect : Rect) (move : Point) : (rect.moved move).isEmpty = rect.isEmpty := by
  rw [Bool.eq_iff_iff, isEmpty_iff, isEmpty_iff]
  simp only [moved]
  omega

end Rect

-- Where a rectangle with such edges can hold a point: its right and bottom edges are outside.
def Point.IsPixel (point : Point) : Prop :=
  (IsCoordinate point.x ∧ IsCoordinate (point.x + 1)) ∧
    IsCoordinate point.y ∧ IsCoordinate (point.y + 1)

theorem Rect.Bounded.isPixel {rect : Rect} {point : Point} (bounded : rect.Bounded)
    (contained : rect.contains point = true) : point.IsPixel := by
  have inside := (rect.contains_iff point).mp contained
  simp only [Rect.Bounded, Point.IsPixel, IsCoordinate] at bounded ⊢
  omega

namespace Region

variable {region : Region} {move : Point}

def Bounded (region : Region) : Prop := ∀ rect ∈ region.rects, rect.Bounded

theorem Bounded.isPixel (bounded : region.Bounded) {point : Point}
    (contained : region.contains point = true) : point.IsPixel := by
  obtain ⟨rect, member, inside⟩ := (region.contains_iff point).mp contained
  exact (bounded rect member).isPixel inside

theorem Canonical.bounded_iff (canonical : region.Canonical) :
    region.Bounded ↔ ∀ point, region.contains point = true → point.IsPixel := by
  constructor
  · exact fun bounded point contained => bounded.isPixel contained
  · intro within rect member
    have solid := rect.isEmpty_eq_false_iff.mp (canonical.solid rect member)
    have first : region.contains ⟨rect.left, rect.top⟩ = true :=
      (region.contains_mk_iff _ _).mpr ⟨rect, member, by omega, by omega⟩
    have last : region.contains ⟨rect.right - 1, rect.bottom - 1⟩ = true :=
      (region.contains_mk_iff _ _).mpr ⟨rect, member, by omega, by omega⟩
    have start := within _ first
    have stop := within _ last
    simp only [Rect.Bounded, Point.IsPixel, IsCoordinate] at start stop ⊢
    omega

theorem mapM_shift_eq (rects : List Rect) (move : Point) :
    (rects.mapM fun rect => rect.shift move) =
      if ∀ rect ∈ rects, (rect.moved move).Bounded
      then (.ok (rects.map (Rect.moved move)) : Checked (List Rect)) else .error .overflow := by
  induction rects with
  | nil => simp; rfl
  | cons rect rest ih =>
    have split : (∀ other ∈ rect :: rest, (other.moved move).Bounded) ↔
        (rect.moved move).Bounded ∧ ∀ other ∈ rest, (other.moved move).Bounded :=
      List.forall_mem_cons
    rw [List.mapM_cons, ih, Rect.shift_eq]
    by_cases first : (rect.moved move).Bounded
    next =>
      by_cases later : ∀ rect ∈ rest, (rect.moved move).Bounded
      next =>
        rw [if_pos first, if_pos later, if_pos (split.mpr ⟨first, later⟩)]
        rfl
      next =>
        rw [if_pos first, if_neg later, if_neg fun all => later (split.mp all).2]
        rfl
    next =>
      rw [if_neg first, if_neg fun all => first (split.mp all).1]
      rfl

theorem shift_eq (region : Region) (move : Point) : region.shift move =
    if ∀ rect ∈ region.rects, (rect.moved move).Bounded
    then .ok ⟨region.rects.map (Rect.moved move)⟩ else .error .overflow := by
  rw [shift, mapM_shift_eq]
  split <;> rfl

theorem spansAt_moved (rects : List Rect) (move : Point) (top : Int) :
    spansAt (rects.map (Rect.moved move)) (top + move.y) =
      (spansAt rects top).map fun span => ⟨span.left + move.x, span.right + move.x⟩ := by
  simp [spansAt, List.filter_map, Function.comp_def, Rect.moved, Rect.span]

theorem moved_canonical (canonical : region.Canonical) (move : Point) :
    Canonical ⟨region.rects.map (Rect.moved move)⟩ := by
  refine ⟨?_, ?_, ?_⟩
  · intro rect member
    obtain ⟨rect, known, rfl⟩ := List.mem_map.mp member
    have solid := rect.isEmpty_eq_false_iff.mp (canonical.solid rect known)
    rw [Rect.isEmpty_eq_false_iff]
    simp only [Rect.moved]
    omega
  · refine List.pairwise_map.mpr (canonical.ordered.imp ?_)
    intro rect next before
    simp only [Rect.Precedes, Rect.moved] at before ⊢
    omega
  · intro upper upperMember lower lowerMember touching same
    obtain ⟨upper, upperKnown, rfl⟩ := List.mem_map.mp upperMember
    obtain ⟨lower, lowerKnown, rfl⟩ := List.mem_map.mp lowerMember
    simp only [Rect.moved] at touching
    apply canonical.merged upper upperKnown lower lowerKnown (by omega)
    simp only [Rect.moved] at same
    have back := (spansAt_moved region.rects move upper.top).symm.trans
      (same.trans (spansAt_moved region.rects move lower.top))
    refine (List.map_inj_right ?_).mp back
    intro ⟨left, right⟩ ⟨otherLeft, otherRight⟩ equal
    simp only [Span.mk.injEq] at equal ⊢
    omega

theorem contains_moved (region : Region) (move point : Point) :
    contains ⟨region.rects.map (Rect.moved move)⟩ point =
      region.contains ⟨point.x - move.x, point.y - move.y⟩ := by
  simp only [contains, List.any_map, Function.comp_def, Rect.contains_moved]

theorem shift_eq_ok {moved : Region} (shifted : region.shift move = .ok moved) :
    moved = ⟨region.rects.map (Rect.moved move)⟩ ∧ moved.Bounded := by
  rw [shift_eq] at shifted
  split at shifted
  next within =>
    cases shifted
    exact ⟨rfl, List.forall_mem_map.mpr within⟩
  next => cases shifted

end Region

end ScreenCapture
