import Mathlib.Logic.Function.Basic
import ScreenCapture.Proofs.Region.Bounded

set_option autoImplicit false

namespace ScreenCapture

abbrev BoundedRect := { rect : Rect // rect.Bounded }

inductive RegionEdit where
  | clear
  | set (rect : BoundedRect)
  | insert (rect : BoundedRect)
  | insertAll (rects : List BoundedRect)
  | union (source : Nat)
  | clip (rect : BoundedRect)
  | inter (source : Nat)
  | erase (rect : BoundedRect)
  | diff (source : Nat)
  | shift (move : Point)

inductive RegionAction where
  | edit (target : Nat) (edit : RegionEdit)
  | swap (target other : Nat)

def RegionEdit.apply (regions : Nat → Region) (region : Region) : RegionEdit → Checked Region
  | .clear => .ok .empty
  | .set rect => .ok (.ofRect rect)
  | .insert rect => .ok (region.insert rect)
  | .insertAll rects => .ok (region.insertAll (rects.map Subtype.val))
  | .union source => .ok (region.union (regions source))
  | .clip rect => .ok (region.clip rect)
  | .inter source => .ok (region.inter (regions source))
  | .erase rect => .ok (region.erase rect)
  | .diff source => .ok (region.diff (regions source))
  | .shift move => region.shift move

namespace Region

def step (regions : Nat → Region) : RegionAction → Checked (Nat → Region)
  | .edit target edit => do
      let region ← edit.apply regions (regions target)
      return Function.update regions target region
  | .swap target other =>
      .ok (Function.update (Function.update regions target (regions other)) other (regions target))

def run (actions : List RegionAction) (regions : Nat → Region) : Checked (Nat → Region) :=
  actions.foldlM step regions

def blank : Nat → Region := fun _ => .empty

def Reachable (region : Region) : Prop :=
  ∃ actions regions index, run actions blank = .ok regions ∧ regions index = region

structure Good (region : Region) : Prop where
  canonical : region.Canonical
  bounded : region.Bounded

theorem good_of_points {region : Region} (canonical : region.Canonical)
    (within : ∀ point, region.contains point = true → point.IsPixel) : region.Good :=
  ⟨canonical, canonical.bounded_iff.mpr within⟩

theorem empty_good : empty.Good := ⟨⟨by simp [empty], .nil, by simp [empty]⟩, by simp [Bounded, empty]⟩

theorem apply_good {regions : Nat → Region} {region result : Region} {edit : RegionEdit}
    (good : ∀ index, (regions index).Good) (regionGood : region.Good)
    (applied : edit.apply regions region = .ok result) : result.Good := by
  have own : ∀ point, region.contains point = true → point.IsPixel :=
    fun point contained => regionGood.bounded.isPixel contained
  cases edit with
  | clear =>
    cases applied
    exact empty_good
  | set rect =>
    cases applied
    refine good_of_points (ofRect_canonical _) fun point contained => ?_
    rw [contains_ofRect] at contained
    exact rect.property.isPixel contained
  | insert rect =>
    cases applied
    refine good_of_points (insert_canonical regionGood.canonical _) fun point contained => ?_
    rw [contains_insert, Bool.or_eq_true] at contained
    exact contained.elim (own point) rect.property.isPixel
  | insertAll rects =>
    cases applied
    refine good_of_points (ofRects_canonical _) fun point contained => ?_
    rw [contains_insertAll, Bool.or_eq_true, List.any_eq_true] at contained
    rcases contained with contained | ⟨rect, member, inside⟩
    · exact own point contained
    · obtain ⟨rect, _, rfl⟩ := List.mem_map.mp member
      exact rect.property.isPixel inside
  | union source =>
    cases applied
    refine good_of_points (ofRects_canonical _) fun point contained => ?_
    rw [contains_union, Bool.or_eq_true] at contained
    exact contained.elim (own point) (good source).bounded.isPixel
  | clip rect =>
    cases applied
    refine good_of_points (ofRects_canonical _) fun point contained => ?_
    rw [contains_clip, Bool.and_eq_true] at contained
    exact own point contained.1
  | inter source =>
    cases applied
    refine good_of_points (ofRects_canonical _) fun point contained => ?_
    rw [contains_inter, Bool.and_eq_true] at contained
    exact own point contained.1
  | erase rect =>
    cases applied
    refine good_of_points (erase_canonical regionGood.canonical _) fun point contained => ?_
    rw [contains_erase, Bool.and_eq_true] at contained
    exact own point contained.1
  | diff source =>
    cases applied
    refine good_of_points (diff_canonical regionGood.canonical _) fun point contained => ?_
    rw [contains_diff, Bool.and_eq_true] at contained
    exact own point contained.1
  | shift move =>
    obtain ⟨rfl, bounded⟩ := shift_eq_ok applied
    exact ⟨moved_canonical regionGood.canonical move, bounded⟩

theorem update_good {regions : Nat → Region} (good : ∀ index, (regions index).Good) (target : Nat)
    {region : Region} (regionGood : region.Good) :
    ∀ index, (Function.update regions target region index).Good := by
  intro index
  by_cases same : index = target
  · rw [same, Function.update_self]
    exact regionGood
  · rw [Function.update_of_ne same]
    exact good index

theorem step_good {regions next : Nat → Region} {action : RegionAction}
    (good : ∀ index, (regions index).Good) (stepped : step regions action = .ok next) :
    ∀ index, (next index).Good := by
  cases action with
  | edit target edit =>
    obtain ⟨region, applied, stepped⟩ := Checked.bind_eq_ok.mp stepped
    cases stepped
    exact update_good good target (apply_good good (good target) applied)
  | swap target other =>
    cases stepped
    exact update_good (update_good good target (good other)) other (good target)

theorem run_good {actions : List RegionAction} {regions next : Nat → Region}
    (good : ∀ index, (regions index).Good) (ran : run actions regions = .ok next) :
    ∀ index, (next index).Good := by
  induction actions generalizing regions with
  | nil =>
    cases ran
    exact good
  | cons action rest ih =>
    obtain ⟨middle, stepped, ran⟩ := Checked.bind_eq_ok.mp ran
    exact ih (step_good good stepped) ran

theorem Reachable.good {region : Region} (reached : region.Reachable) : region.Good := by
  obtain ⟨actions, regions, index, ran, rfl⟩ := reached
  exact run_good (fun _ => empty_good) ran index

theorem Good.ext {region other : Region} (good : region.Good) (otherGood : other.Good)
    (same : ∀ x y, IsCoordinate x → IsCoordinate y →
      region.contains ⟨x, y⟩ = other.contains ⟨x, y⟩) : region = other := by
  refine good.canonical.ext otherGood.canonical fun point => ?_
  rw [Bool.eq_iff_iff]
  constructor
  · intro contained
    have pixel := good.bounded.isPixel contained
    exact same _ _ pixel.1.1 pixel.2.1 ▸ contained
  · intro contained
    have pixel := otherGood.bounded.isPixel contained
    exact same _ _ pixel.1.1 pixel.2.1 ▸ contained

theorem reachable_canonical {region : Region} (reached : region.Reachable) :
    region.Canonical ∧ ∀ other : Region, other.Reachable →
      (region.rects = other.rects ↔ ∀ x y, IsCoordinate x → IsCoordinate y →
        region.contains ⟨x, y⟩ = other.contains ⟨x, y⟩) := by
  refine ⟨reached.good.canonical, fun other otherReached => ?_⟩
  constructor
  · intro rects x y _ _
    rw [contains, rects, contains]
  · intro same
    rw [reached.good.ext otherReached.good same]

def overlapping : Region := (empty.insert ⟨0, 0, 2, 2⟩).insert ⟨1, 1, 3, 3⟩

theorem overlapping_reachable : overlapping.Reachable :=
  ⟨[.edit 0 (.insert ⟨⟨0, 0, 2, 2⟩, by decide⟩), .edit 0 (.insert ⟨⟨1, 1, 3, 3⟩, by decide⟩)],
    _, 0, rfl, rfl⟩

theorem overlapping_canonical : overlapping.Reachable ∧ overlapping.Canonical ∧
    ∀ other : Region, other.Reachable →
      (overlapping.rects = other.rects ↔ ∀ x y, IsCoordinate x → IsCoordinate y →
        overlapping.contains ⟨x, y⟩ = other.contains ⟨x, y⟩) :=
  ⟨overlapping_reachable, reachable_canonical overlapping_reachable⟩

theorem Good.isEmpty_iff {region : Region} (good : region.Good) :
    region.isEmpty = true ↔
      ∀ x y, IsCoordinate x → IsCoordinate y → region.contains ⟨x, y⟩ = false := by
  rw [isEmpty_eq_true_iff good.canonical]
  constructor
  · exact fun none x y _ _ => none ⟨x, y⟩
  · intro none point
    rw [← Bool.not_eq_true]
    intro contained
    have pixel := good.bounded.isPixel contained
    rw [none _ _ pixel.1.1 pixel.2.1] at contained
    cases contained

theorem shift_eq_ok_iff (region : Region) (move : Point) :
    (∃ moved, region.shift move = .ok moved) ↔
      ∀ part ∈ region.rects, (part.moved move).Bounded := by
  rw [shift_eq]
  split
  next within => exact ⟨fun _ => within, fun _ => ⟨_, rfl⟩⟩
  next outside =>
    constructor
    · intro ⟨moved, shifted⟩
      cases shifted
    · exact fun within => absurd within outside

theorem apply_ok {regions : Nat → Region} {region : Region} {edit : RegionEdit}
    (good : ∀ index, (regions index).Good) (regionGood : region.Good)
    (still : ∀ move, edit ≠ .shift move) :
    ∃ result, edit.apply regions region = .ok result ∧ result.Bounded := by
  have total : ∃ result, edit.apply regions region = .ok result := by
    cases edit with
    | shift move => exact absurd rfl (still move)
    | _ => exact ⟨_, rfl⟩
  obtain ⟨result, applied⟩ := total
  exact ⟨result, applied, (apply_good good regionGood applied).bounded⟩

theorem reachable_contains {region : Region} (reached : region.Reachable) (other : Region)
    (rect : Rect) (rects : List Rect) (point : Point) :
    (region.insert rect).contains point = (region.contains point || rect.contains point) ∧
    (region.insertAll rects).contains point =
      (region.contains point || rects.any fun rect => rect.contains point) ∧
    (region.union other).contains point = (region.contains point || other.contains point) ∧
    (region.clip rect).contains point = (region.contains point && rect.contains point) ∧
    (region.inter other).contains point = (region.contains point && other.contains point) ∧
    (region.erase rect).contains point = (region.contains point && !rect.contains point) ∧
    (region.diff other).contains point = (region.contains point && !other.contains point) ∧
    (∀ move moved, region.shift move = .ok moved →
      moved.contains point = region.contains ⟨point.x - move.x, point.y - move.y⟩) ∧
    (∀ move, (∃ moved, region.shift move = .ok moved) ↔
      ∀ part ∈ region.rects, (part.moved move).Bounded) ∧
    (region.isEmpty = true ↔
      ∀ x y, IsCoordinate x → IsCoordinate y → region.contains ⟨x, y⟩ = false) ∧
    ∀ (regions : Nat → Region) (edit : RegionEdit), (∀ index, (regions index).Reachable) →
      (∀ move, edit ≠ .shift move) →
        ∃ result, edit.apply regions region = .ok result ∧ result.Bounded := by
  refine ⟨contains_insert .., contains_insertAll .., contains_union .., contains_clip ..,
    contains_inter .., contains_erase .., contains_diff .., ?_, region.shift_eq_ok_iff,
    reached.good.isEmpty_iff, ?_⟩
  · intro move moved shifted
    obtain ⟨rfl, _⟩ := shift_eq_ok shifted
    exact region.contains_moved move point
  · intro regions edit others still
    exact apply_ok (fun index => (others index).good) reached.good still

theorem overlapping_contains : overlapping.Reachable ∧
    (overlapping.erase ⟨1, 1, 2, 2⟩).contains ⟨1, 1⟩ = false ∧
    (∀ move, (∃ moved, overlapping.shift move = .ok moved) ↔
      ∀ part ∈ overlapping.rects, (part.moved move).Bounded) ∧
    (overlapping.isEmpty = true ↔
      ∀ x y, IsCoordinate x → IsCoordinate y → overlapping.contains ⟨x, y⟩ = false) := by
  obtain ⟨_, _, _, _, _, erased, _, _, shifts, none, _⟩ :=
    reachable_contains overlapping_reachable empty ⟨1, 1, 2, 2⟩ [] ⟨1, 1⟩
  refine ⟨overlapping_reachable, erased.trans ?_, shifts, none⟩
  exact Bool.and_false _

end Region

end ScreenCapture
