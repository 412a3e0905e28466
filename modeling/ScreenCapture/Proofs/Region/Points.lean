import ScreenCapture.Proofs.Region.Normal

set_option autoImplicit false

namespace ScreenCapture

namespace Region

variable (region other : Region) (rect : Rect) (point : Point)

theorem contains_empty : empty.contains point = false := rfl

theorem contains_ofRect : (ofRect rect).contains point = rect.contains point := by
  simp only [ofRect]
  split
  next hollow => rw [Rect.contains_of_isEmpty hollow, contains_empty]
  next => simp [contains]

theorem contains_insertAll (rects : List Rect) :
    (region.insertAll rects).contains point =
      (region.contains point || rects.any fun rect => rect.contains point) := by
  rw [insertAll, contains_ofRects, List.any_append]
  rfl

theorem contains_insert :
    (region.insert rect).contains point = (region.contains point || rect.contains point) := by
  simp only [insert]
  split
  next hollow => rw [Rect.contains_of_isEmpty hollow, Bool.or_false]
  next =>
    rw [contains_ofRects, List.any_append, List.any_cons, List.any_nil, Bool.or_false]
    rfl

theorem contains_union :
    (region.union other).contains point = (region.contains point || other.contains point) :=
  contains_insertAll region point other.rects

theorem contains_clip :
    (region.clip rect).contains point = (region.contains point && rect.contains point) := by
  rw [clip, contains_ofRects, List.any_map, contains, List.and_any_distrib_right]
  simp only [Function.comp_def, Rect.contains_meet]

theorem contains_inter :
    (region.inter other).contains point = (region.contains point && other.contains point) := by
  rw [inter, contains_ofRects, List.any_flatMap, contains, List.and_any_distrib_right]
  simp only [List.any_map, Function.comp_def, Rect.contains_meet, contains,
    List.and_any_distrib_left]

theorem any_around {hole : Rect} (inside : rect.encloses hole = true)
    (solid : hole.isEmpty = false) : ((around rect hole).any fun piece => piece.contains point) =
      (rect.contains point && !hole.contains point) := by
  rw [Rect.isEmpty_eq_false_iff] at solid
  simp only [Rect.encloses, Bool.and_eq_true, decide_eq_true_eq] at inside
  rw [Bool.eq_iff_iff]
  simp only [around, List.any_cons, List.any_nil, Bool.or_false, Bool.or_eq_true, Bool.and_eq_true,
    Bool.not_eq_true', ← Bool.not_eq_true, Rect.contains_iff]
  omega

theorem encloses_meet {hole : Rect} (solid : (rect.meet hole).isEmpty = false) :
    rect.encloses (rect.meet hole) = true := by
  unfold Rect.meet at solid ⊢
  split
  next hollow =>
    rw [if_pos hollow] at solid
    cases solid
  next =>
    simp only [Rect.encloses, Bool.and_eq_true, decide_eq_true_eq]
    simp only [Rect.overlap]
    omega

theorem any_cut (hole : Rect) : ((cut rect hole).any fun piece => piece.contains point) =
    (rect.contains point && !hole.contains point) := by
  have common := Rect.contains_meet rect hole point
  simp only [cut]
  split
  next hollow =>
    rw [Rect.contains_of_isEmpty hollow] at common
    cases inside : rect.contains point <;> simp_all
  next solid =>
    rw [Bool.not_eq_true] at solid
    rw [any_around rect point (encloses_meet rect solid) solid, common]
    cases rect.contains point <;> rfl

theorem contains_erase :
    (region.erase rect).contains point = (region.contains point && !rect.contains point) := by
  simp only [erase]
  split
  next hollow => rw [Rect.contains_of_isEmpty hollow, Bool.not_false, Bool.and_true]
  next =>
    rw [contains_ofRects, List.any_flatMap, contains, List.and_any_distrib_right]
    simp only [any_cut]

theorem contains_foldl_erase (rects : List Rect) : (rects.foldl erase region).contains point =
    (region.contains point && !rects.any fun rect => rect.contains point) := by
  induction rects generalizing region with
  | nil => simp
  | cons rect rest ih =>
    rw [List.foldl_cons, ih, contains_erase, List.any_cons, Bool.not_or, Bool.and_assoc]

theorem contains_diff :
    (region.diff other).contains point = (region.contains point && !other.contains point) :=
  contains_foldl_erase region point other.rects

variable {region other rect point}

theorem insert_canonical (canonical : region.Canonical) (rect : Rect) :
    (region.insert rect).Canonical := by
  simp only [insert]
  split
  · exact canonical
  · exact ofRects_canonical _

theorem erase_canonical (canonical : region.Canonical) (rect : Rect) :
    (region.erase rect).Canonical := by
  simp only [erase]
  split
  · exact canonical
  · exact ofRects_canonical _

theorem diff_canonical (canonical : region.Canonical) (other : Region) :
    (region.diff other).Canonical := by
  unfold diff
  induction other.rects generalizing region with
  | nil => exact canonical
  | cons rect rest ih => exact ih (erase_canonical canonical rect)

theorem ofRect_canonical (rect : Rect) : (ofRect rect).Canonical := by
  simp only [ofRect]
  split
  next => exact canonical_of_length_le (by simp) (by simp)
  next solid => exact canonical_of_length_le (by simpa using solid) (by simp)

theorem isEmpty_eq_true_iff (canonical : region.Canonical) :
    region.isEmpty = true ↔ ∀ point, region.contains point = false := by
  rw [isEmpty, List.isEmpty_iff]
  constructor
  · intro none point
    rw [contains, none, List.any_nil]
  · intro none
    refine List.eq_nil_iff_forall_not_mem.mpr fun rect member => ?_
    have solid := rect.isEmpty_eq_false_iff.mp (canonical.solid rect member)
    have corner := (canonical.maximal member).filled rect.left (Int.le_refl _) solid.1
    rw [none] at corner
    cases corner

theorem Canonical.encloses_of_contains {outer : Rect} (canonical : region.Canonical)
    (within : ∀ point, region.contains point = true → outer.contains point = true) :
    ∀ rect ∈ region.rects, outer.encloses rect = true := by
  intro rect member
  have solid := (Rect.isEmpty_eq_false_iff rect).mp (canonical.solid rect member)
  have inside (x y : Int) (column : rect.left ≤ x ∧ x < rect.right)
      (line : rect.top ≤ y ∧ y < rect.bottom) :
      (outer.left ≤ x ∧ x < outer.right) ∧ outer.top ≤ y ∧ y < outer.bottom :=
    (Rect.contains_iff outer ⟨x, y⟩).mp
      (within _ ((contains_mk_iff region x y).mpr ⟨rect, member, column, line⟩))
  have first := inside rect.left rect.top (by omega) (by omega)
  have last := inside (rect.right - 1) (rect.bottom - 1) (by omega) (by omega)
  rw [Rect.encloses_iff]
  omega

end Region

end ScreenCapture
