import ScreenCapture.Json.Shape
import ScreenCapture.Proofs.Json.Reading
import ScreenCapture.Proofs.Layout.Basic
import ScreenCapture.Proofs.Pixels.Overlap
import ScreenCapture.Proofs.Region.Bounded

set_option autoImplicit false

namespace ScreenCapture

namespace Json

variable {S : Type}

theorem find?_name {A : Type} {name : A → String} {items : List A} (distinct : (items.map name).Nodup)
    {item : A} (member : item ∈ items) :
    items.find? (fun other => name other == name item) = some item := by
  induction items with
  | nil => exact nomatch member
  | cons first rest ih =>
    rw [List.map_cons, List.nodup_cons] at distinct
    rcases List.mem_cons.mp member with rfl | later
    next => exact List.find?_cons_of_pos (BEq.rfl)
    next =>
      have other : name first ≠ name item := fun same =>
        distinct.1 (same ▸ List.mem_map_of_mem later)
      rw [List.find?_cons_of_neg (by simpa using other)]
      exact ih distinct.2 later

structure Edge (S : Type) where
  name : String
  set : S → Int → S
  value : Int

namespace Edge

def field (edge : Edge S) : Field S := coordinateField edge.name edge.set

def entry (edge : Edge S) : Entry S :=
  ⟨edge.name, toString edge.value, fun state => edge.set state edge.value⟩

end Edge

theorem carries_edges {edges : List (Edge S)} {state : S}
    (plain : ∀ name ∈ edges.map Edge.name, Plain name.toList) (distinct : (edges.map Edge.name).Nodup)
    (within : ∀ edge ∈ edges, IsCoordinate edge.value) :
    Carries (readRecord true (edges.map Edge.field) state)
      (writeObject ((edges.map Edge.entry).map Entry.written))
      (Entry.setAll (edges.map Edge.entry) state) := by
  have names : (edges.map Edge.entry).map Entry.name = edges.map Edge.name := List.map_map
  refine carries_record ?_ (names ▸ distinct) fun _ => ?_
  next =>
    refine List.forall_mem_map.mpr fun edge member => ⟨?_, edge.field, ?_, ?_⟩
    next => exact plain edge.name (List.mem_map_of_mem member)
    next =>
      rw [List.find?_map]
      exact congrArg (Option.map Edge.field) (find?_name distinct member)
    next =>
      have carries : Carries readCoordinate (toString edge.value) edge.value :=
        carries_integer (within edge member)
      exact carries.fill edge.set
  next =>
    rw [names]
    exact List.forall_mem_map.mpr fun edge member => List.mem_map_of_mem member

theorem carries_point {point : Point} (bounded : point.Bounded) :
    Carries readPoint (writePoint point) point :=
  @carries_edges Point [⟨"x", fun point x => { point with x }, point.x⟩,
      ⟨"y", fun point y => { point with y }, point.y⟩] .zero
    (show ∀ name ∈ ["x", "y"], Plain name.toList by decide) (show ["x", "y"].Nodup by decide)
    (List.forall_mem_cons.mpr ⟨bounded.1, List.forall_mem_singleton.mpr bounded.2⟩)

theorem carries_size {size : Size} (bounded : size.Bounded) :
    Carries readSize (writeSize size) size :=
  @carries_edges Size [⟨"width", fun size width => { size with width }, size.width⟩,
      ⟨"height", fun size height => { size with height }, size.height⟩] ⟨0, 0⟩
    (show ∀ name ∈ ["width", "height"], Plain name.toList by decide)
    (show ["width", "height"].Nodup by decide)
    (List.forall_mem_cons.mpr ⟨bounded.1, List.forall_mem_singleton.mpr bounded.2⟩)

theorem carries_rect {rect : Rect} (bounded : rect.Bounded) :
    Carries readRect (writeRect rect) rect := by
  obtain ⟨⟨left, top⟩, right, bottom⟩ := bounded
  refine @carries_edges Rect [⟨"left", fun rect left => { rect with left }, rect.left⟩,
      ⟨"top", fun rect top => { rect with top }, rect.top⟩,
      ⟨"right", fun rect right => { rect with right }, rect.right⟩,
      ⟨"bottom", fun rect bottom => { rect with bottom }, rect.bottom⟩] .zero ?_ ?_ ?_
  next => exact show ∀ name ∈ ["left", "top", "right", "bottom"], Plain name.toList by decide
  next => exact show ["left", "top", "right", "bottom"].Nodup by decide
  next =>
    simp only [List.forall_mem_cons]
    exact ⟨left, top, right, bottom, nofun⟩

theorem carries_rotation (rotation : Rotation) :
    Carries readRotation (writeRotation rotation) rotation := by
  refine carries_name ?_ ?_
  next => cases rotation <;> decide
  next => cases rotation <;> rfl

end Json

end ScreenCapture
