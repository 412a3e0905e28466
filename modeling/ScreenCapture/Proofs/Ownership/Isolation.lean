import ScreenCapture.Proofs.Ownership.Runs

set_option autoImplicit false

namespace ScreenCapture

namespace Frame

section Reading

variable {frame : Frame} {store next : Store}

theorem data_congr (same : next.bytes frame.buffer = store.bytes frame.buffer) :
    frame.data next = frame.data store := by
  simp only [data, same]

theorem pixels_congr (same : next.bytes frame.buffer = store.bytes frame.buffer) :
    frame.pixels next = frame.pixels store := by
  have rows : frame.appendRow next = frame.appendRow store := by
    funext y pixels
    simp only [appendRow, row, plane, same]
  simp only [pixels, rows]

end Reading

def ReadsAlike (frame : Frame) (store next : Store) : Prop :=
  frame.data next = frame.data store ∧ frame.pixels next = frame.pixels store

end Frame

theorem Exchange.readsAlike {store next : Store} {old new others : Multiset Frame} {other : Frame}
    (exchange : Exchange store old next new) (owned : Owned store (old + others))
    (member : other ∈ others) : other.ReadsAlike store next := by
  have same := (exchange others owned).2 other member
  exact ⟨Frame.data_congr same, Frame.pixels_congr same⟩

namespace Holdings

variable {actions : List Action} {holdings : Holdings} {frame : Frame} {others : Multiset Frame}

theorem frames_isolated (ran : start.run actions = .ok holdings)
    (live : holdings.live = {frame} + others) :
    (∀ next, frame.Writes holdings.store next →
      ∀ other ∈ others, other.ReadsAlike holdings.store next) ∧
    ∀ other ∈ others, other.ReadsAlike holdings.store (frame.release holdings.store) := by
  have owned : Owned holdings.store ({frame} + others) := live ▸ run_owned ran
  constructor
  · intro next writes other member
    exact writes.exchange.readsAlike owned member
  · intro other member
    exact (frame.release_exchange holdings.store).readsAlike owned member

def cropThenDrop : List Action :=
  [.create (.frame .heap ⟨2, 1⟩), .change 0 (.within .own .share), .change 0 (.crop ⟨1, 0, 2, 1⟩),
    .change 1 (.within .own .duplicate), .change 0 .drop]

theorem frames_isolated_of_cropThenDrop : ∃ holdings part copy next,
    start.run cropThenDrop = .ok holdings ∧ holdings.live = {part} + {copy} ∧
      (part.isCropped = true ∧ part.groups = [0]) ∧
      part.edit (Frame.putColor Pattern.color) holdings.store = .ok next ∧
      part.pixels next ≠ part.pixels holdings.store ∧ copy.ReadsAlike holdings.store next ∧
      copy.ReadsAlike holdings.store (part.release holdings.store) := by
  obtain ⟨holdings, part, copy, next, ran, live, cropped, edited, changed⟩ :
      ∃ holdings part copy next, start.run cropThenDrop = .ok holdings ∧
        holdings.live = {part} + {copy} ∧ (part.isCropped = true ∧ part.groups = [0]) ∧
        part.edit (Frame.putColor Pattern.color) holdings.store = .ok next ∧
        part.pixels next ≠ part.pixels holdings.store :=
    ⟨_, _, _, _, rfl, rfl, ⟨rfl, rfl⟩, rfl, by decide +kernel⟩
  obtain ⟨written, dropped⟩ := frames_isolated ran live
  have member : copy ∈ ({copy} : Multiset Frame) := Multiset.mem_singleton_self copy
  exact ⟨holdings, part, copy, next, ran, live, cropped, edited, changed,
    written next (Frame.edit_writes edited) copy member, dropped copy member⟩

end Holdings

end ScreenCapture
