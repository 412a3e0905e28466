import Mathlib.Logic.Relation
import ScreenCapture.Cursor.Basic
import ScreenCapture.Pattern
import ScreenCapture.Proofs.Ownership.Exchange

set_option autoImplicit false

namespace ScreenCapture.Frame

def Writes (frame : Frame) : Store → Store → Prop :=
  Relation.ReflTransGen fun store next => ∃ change, frame.edit change store = .ok next

variable {frame source : Frame} {store middle next : Store}

theorem Writes.refl (frame : Frame) (store : Store) : frame.Writes store store :=
  Relation.ReflTransGen.refl

theorem Writes.trans (first : frame.Writes store middle) (second : frame.Writes middle next) :
    frame.Writes store next :=
  Relation.ReflTransGen.trans first second

theorem edit_writes {change : Plane → Checked Bytes} (edited : frame.edit change store = .ok next) :
    frame.Writes store next :=
  Relation.ReflTransGen.single ⟨change, edited⟩

theorem Writes.exchange (writes : frame.Writes store next) :
    Exchange store {frame} next {frame} := by
  induction writes with
  | refl => exact .refl _ _
  | tail _ last ih =>
    obtain ⟨change, edited⟩ := last
    exact ih.trans (edit_exchange edited)

theorem sweep_writes {step : Nat → Store → Checked Store}
    (each : ∀ index store next, step index store = .ok next → frame.Writes store next)
    {count first : Nat} (swept : sweep step count first store = .ok next) :
    frame.Writes store next :=
  sweep_leaves (fun _ reached => frame.Writes store reached) count (.refl frame store) swept
    fun index reached after _ _ writes stepped => writes.trans (each index reached after stepped)

theorem editAt_writes {position : Point} {change : Plane → Checked Bytes}
    (edited : frame.editAt position change store = .ok next) : frame.Writes store next := by
  obtain ⟨offset, _, changed⟩ := Checked.bind_eq_ok.mp edited
  exact edit_writes changed

theorem clear_writes (cleared : frame.clear store = .ok next) : frame.Writes store next := by
  unfold clear at cleared
  split at cleared
  · cases cleared
    exact .refl _ _
  · exact edit_writes cleared

theorem blacken_writes (blackened : frame.blacken store = .ok next) : frame.Writes store next := by
  unfold blacken at blackened
  split at blackened
  · cases blackened
    exact .refl _ _
  · exact edit_writes blackened

theorem copyRows_writes {plane : Plane} {rect : Rect}
    (copied : frame.copyRows plane rect store = .ok next) : frame.Writes store next := by
  unfold copyRows at copied
  split at copied
  · cases copied
  · split at copied
    · cases copied
      exact .refl _ _
    · exact editAt_writes copied

theorem copyPixels_writes {position : Point} {rect : Rect}
    (copied : frame.copyPixels source position rect store = .ok next) : frame.Writes store next := by
  obtain ⟨plane, _, rows⟩ := Checked.bind_eq_ok.mp copied
  exact copyRows_writes rows

theorem copyOverlap_writes {horizontal vertical : Factor} {answer : Bool}
    (copied : frame.copyOverlap source horizontal vertical store = .ok (answer, next)) :
    frame.Writes store next := by
  unfold copyOverlap at copied
  obtain ⟨⟨distance, sourceArea⟩, _, copied⟩ := Checked.bind_eq_ok.mp copied
  obtain ⟨ownArea, _, copied⟩ := Checked.bind_eq_ok.mp copied
  dsimp only at copied
  split at copied
  · cases copied
    exact .refl _ _
  · obtain ⟨back, _, copied⟩ := Checked.bind_eq_ok.mp copied
    obtain ⟨target, _, copied⟩ := Checked.bind_eq_ok.mp copied
    obtain ⟨x, _, copied⟩ := Checked.bind_eq_ok.mp copied
    obtain ⟨y, _, copied⟩ := Checked.bind_eq_ok.mp copied
    obtain ⟨written, pixels, answered⟩ := Checked.bind_eq_ok.mp copied
    cases answered
    exact copyPixels_writes pixels

theorem drawTurned_writes {rect : Rect} {rotation : Rotation} {offset : Point} {drawn : Frame}
    (turned : frame.drawTurned source rect rotation offset store = .ok (drawn, next)) :
    frame.Writes store next ∧ drawn.chain = frame.chain := by
  unfold drawTurned at turned
  obtain ⟨area, _, turned⟩ := Checked.bind_eq_ok.mp turned
  obtain ⟨target, _, turned⟩ := Checked.bind_eq_ok.mp turned
  dsimp only at turned
  split at turned
  · cases turned
    exact ⟨.refl _ _, rfl⟩
  split at turned
  · cases turned
  split at turned
  · cases turned
  obtain ⟨plane, _, turned⟩ := Checked.bind_eq_ok.mp turned
  obtain ⟨width, _, turned⟩ := Checked.bind_eq_ok.mp turned
  obtain ⟨height, _, turned⟩ := Checked.bind_eq_ok.mp turned
  obtain ⟨written, edited, turned⟩ := Checked.bind_eq_ok.mp turned
  cases turned
  exact ⟨editAt_writes edited, rfl⟩

theorem unmask_writes {mask : Bytes} {inverted : Bool}
    (unmasked : frame.unmask mask store = .ok (inverted, next)) : frame.Writes store next := by
  obtain ⟨changed, edited, unmasked⟩ := Checked.bind_eq_ok.mp unmasked
  obtain ⟨answer, _, unmasked⟩ := Checked.bind_eq_ok.mp unmasked
  cases unmasked
  exact edit_writes edited

theorem outline_writes (outlined : frame.outline store = .ok next) : frame.Writes store next :=
  edit_writes outlined

theorem premultiply_writes (scaled : frame.premultiply store = .ok next) :
    frame.Writes store next :=
  edit_writes scaled

theorem applyMask_writes {bitmaps : CursorBitmaps}
    (applied : bitmaps.applyMask frame store = .ok next) : frame.Writes store next := by
  obtain ⟨⟨inverted, unmasked⟩, first, applied⟩ := Checked.bind_eq_ok.mp applied
  have begun := unmask_writes first
  dsimp only at applied
  split at applied
  · exact begun.trans (outline_writes applied)
  · cases applied
    exact begun

theorem draw_writes {bitmaps : CursorBitmaps} (drawn : bitmaps.draw frame store = .ok next) :
    frame.Writes store next := by
  obtain ⟨copied, first, drawn⟩ := Checked.bind_eq_ok.mp drawn
  obtain ⟨hasAlpha, _, drawn⟩ := Checked.bind_eq_ok.mp drawn
  have begun := copyRows_writes first
  dsimp only at drawn
  split at drawn
  · exact begun.trans (premultiply_writes drawn)
  · obtain ⟨masked, second, drawn⟩ := Checked.bind_eq_ok.mp drawn
    exact (begun.trans (applyMask_writes second)).trans (premultiply_writes drawn)

theorem paint_writes {pattern : Pattern} {sequence : Nat} {changed : Region}
    (painted : pattern.paint frame sequence store = .ok (changed, next)) :
    frame.Writes store next := by
  unfold Pattern.paint at painted
  obtain ⟨cleared, first, painted⟩ := Checked.bind_eq_ok.mp painted
  obtain ⟨block, _, painted⟩ := Checked.bind_eq_ok.mp painted
  obtain ⟨filled, second, painted⟩ := Checked.bind_eq_ok.mp painted
  have rows : frame.Writes cleared filled := by
    obtain ⟨width, _, swept⟩ := Checked.bind_eq_ok.mp second
    refine sweep_writes (fun row store next stepped => ?_) swept
    obtain ⟨offset, _, edited⟩ := Checked.bind_eq_ok.mp stepped
    exact edit_writes edited
  have whole := (clear_writes first).trans rows
  split at painted
  · cases painted
    exact whole
  · obtain ⟨old, _, painted⟩ := Checked.bind_eq_ok.mp painted
    cases painted
    exact whole

end ScreenCapture.Frame
