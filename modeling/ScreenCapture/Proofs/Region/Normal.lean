import ScreenCapture.Proofs.Region.Bands
import ScreenCapture.Proofs.Region.Canonical

set_option autoImplicit false

namespace ScreenCapture

namespace Band

variable {band : Band} {bands rest : List Band} {rect : Rect}

theorem mem_rects : rect ∈ band.rects ↔
    rect.span ∈ band.spans ∧ rect.top = band.top ∧ rect.bottom = band.bottom := by
  constructor
  · intro member
    obtain ⟨span, known, rfl⟩ := List.mem_map.mp member
    exact ⟨known, rfl, rfl⟩
  · intro ⟨known, top, bottom⟩
    refine List.mem_map.mpr ⟨rect.span, known, ?_⟩
    rw [← top, ← bottom]
    rfl

theorem spansAt_rects (band : Band) : Region.spansAt band.rects band.top = band.spans := by
  simp [Region.spansAt, rects, List.filter_map, Function.comp_def, Rect.span]

theorem spansAt_rects_of_ne {top : Int} (other : band.top ≠ top) :
    Region.spansAt band.rects top = [] := by
  simp [Region.spansAt, rects, other]

theorem spansAt_flatMap (tops : bands.Pairwise fun upper lower => upper.top ≠ lower.top)
    (member : band ∈ bands) : Region.spansAt (bands.flatMap rects) band.top = band.spans := by
  induction bands with
  | nil => simp at member
  | cons first rest ih =>
    obtain ⟨apart, later⟩ := List.pairwise_cons.mp tops
    have split : Region.spansAt ((first :: rest).flatMap rects) band.top =
        Region.spansAt first.rects band.top ++ Region.spansAt (rest.flatMap rects) band.top := by
      simp [Region.spansAt]
    rw [split]
    rcases List.mem_cons.mp member with rfl | member
    · have none : Region.spansAt (rest.flatMap rects) band.top = [] := by
        rw [Region.spansAt, List.map_eq_nil_iff, List.filter_eq_nil_iff]
        intro rect known same
        obtain ⟨lower, lowerMember, inside⟩ := List.mem_flatMap.mp known
        have top := (mem_rects.mp inside).2.1
        exact apart lower lowerMember ((of_decide_eq_true same).symm.trans top)
      rw [none, spansAt_rects, List.append_nil]
    · rw [spansAt_rects_of_ne (apart band member), ih later member, List.nil_append]

theorem Stacked.tops (stacked : Stacked bands) :
    bands.Pairwise fun upper lower => upper.top ≠ lower.top := by
  refine stacked.ordered.imp_of_mem ?_
  intro upper lower member _ before
  have tall := (stacked.proper upper member).tall
  have below := before.1
  omega

theorem Stacked.canonical (stacked : Stacked bands) :
    Region.Canonical ⟨bands.flatMap rects⟩ := by
  refine ⟨?_, ?_, ?_⟩
  · intro rect member
    obtain ⟨band, known, inside⟩ := List.mem_flatMap.mp member
    obtain ⟨span, top, bottom⟩ := mem_rects.mp inside
    have proper := stacked.proper band known
    have wide := proper.separated.solid _ span
    have tall := proper.tall
    exact rect.isEmpty_eq_false_iff.mpr ⟨wide, by omega⟩
  · refine List.pairwise_flatMap.mpr ⟨?_, ?_⟩
    · intro band known
      refine List.pairwise_map.mpr ?_
      exact (stacked.proper band known).separated.apart.imp fun gap => .inl ⟨rfl, rfl, gap⟩
    · refine stacked.ordered.imp ?_
      intro upper lower before rect inside next nextInside
      have bottom := (mem_rects.mp inside).2.2
      have top := (mem_rects.mp nextInside).2.1
      have below := before.1
      exact .inr (by omega)
  · intro upper upperMember lower lowerMember touching
    obtain ⟨band, known, inside⟩ := List.mem_flatMap.mp upperMember
    obtain ⟨next, nextKnown, nextInside⟩ := List.mem_flatMap.mp lowerMember
    obtain ⟨_, top, bottom⟩ := mem_rects.mp inside
    obtain ⟨_, nextTop, nextBottom⟩ := mem_rects.mp nextInside
    have tall := (stacked.proper band known).tall
    have nextTall := (stacked.proper next nextKnown).tall
    simp only [top, nextTop, spansAt_flatMap stacked.tops known,
      spansAt_flatMap stacked.tops nextKnown]
    rcases related_of_pairwise stacked.ordered known nextKnown with rfl | before | before
    · omega
    · exact before.2 (by omega)
    · have below := before.1
      omega

theorem contains_flatMap (bands : List Band) (point : Point) :
    Region.contains ⟨bands.flatMap rects⟩ point = true ↔ Covers bands point := by
  rw [Region.contains_iff]
  constructor
  · intro ⟨rect, member, contained⟩
    obtain ⟨band, known, inside⟩ := List.mem_flatMap.mp member
    obtain ⟨span, top, bottom⟩ := mem_rects.mp inside
    obtain ⟨columns, rows⟩ := (rect.contains_iff _).mp contained
    exact ⟨band, known, by omega, rect.span, span, columns⟩
  · intro ⟨band, known, rows, span, covering, columns⟩
    refine ⟨⟨span.left, band.top, span.right, band.bottom⟩, ?_, ?_⟩
    · exact List.mem_flatMap.mpr ⟨band, known, mem_rects.mpr ⟨covering, rfl, rfl⟩⟩
    · exact (Rect.contains_iff _ _).mpr ⟨columns, rows⟩

end Band

namespace Region

theorem canonical_of_length_le {rects : List Rect} (solid : ∀ rect ∈ rects, rect.isEmpty = false)
    (few : rects.length ≤ 1) : Canonical ⟨rects⟩ := by
  cases rects with
  | nil => exact ⟨by simp, .nil, by simp⟩
  | cons rect rest =>
    have last : rest = [] := List.length_eq_zero_iff.mp (by simpa using few)
    subst last
    refine ⟨solid, List.pairwise_singleton _ _, ?_⟩
    have filled := rect.isEmpty_eq_false_iff.mp (solid rect (by simp))
    simp only [List.mem_singleton]
    rintro upper rfl lower rfl touching
    omega

theorem ofRects_canonical (rects : List Rect) : (ofRects rects).Canonical := by
  have solid : ∀ rect ∈ rects.filter fun rect => !rect.isEmpty, rect.isEmpty = false := by
    simp
  simp only [ofRects]
  split
  next few => exact canonical_of_length_le solid few
  next => exact (bandsOf_stacked solid).canonical

theorem any_contains_filter (rects : List Rect) (point : Point) :
    ((rects.filter fun rect => !rect.isEmpty).any fun rect => rect.contains point) =
      rects.any fun rect => rect.contains point := by
  rw [List.any_filter]
  congr 1
  funext rect
  cases hollow : rect.isEmpty with
  | false => rfl
  | true => rw [Rect.contains_of_isEmpty hollow]; rfl

theorem contains_ofRects (rects : List Rect) (point : Point) :
    (ofRects rects).contains point = rects.any fun rect => rect.contains point := by
  have solid : ∀ rect ∈ rects.filter fun rect => !rect.isEmpty, rect.isEmpty = false := by
    simp
  rw [← any_contains_filter]
  simp only [ofRects]
  split
  next => rfl
  next =>
    rw [Bool.eq_iff_iff, Band.contains_flatMap, covers_bandsOf solid]
    exact List.any_eq_true.symm

end Region

end ScreenCapture
