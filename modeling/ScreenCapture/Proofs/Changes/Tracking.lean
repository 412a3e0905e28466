import ScreenCapture.Proofs.Changes.Comparison
import ScreenCapture.Proofs.Ownership.Holders

set_option autoImplicit false

namespace ScreenCapture

theorem Changes.blockAt_contains {area : Rect} {point : Point} (inside : area.contains point = true) :
    (blockAt area point).contains point = true := by
  rw [Rect.contains_iff] at inside ⊢
  simp only [blockAt, blockSize_cast]
  omega

namespace ChangeTracker

open Changes

variable {tracker after : ChangeTracker} {last frame processed : Frame} {last? : Option Frame}
  {store next : Store} {updated : Region} {point : Point}

theorem contains_changed (found : changed (some last) frame store = .ok updated) (point : Point) :
    updated.contains point = true ↔ ∃ hint ∈ frame.info.updated.rects,
      (hint.meet last.bounds).contains point = true ∧
        Dirty last frame store (blockAt (hint.meet last.bounds) point) := by
  rw [Region.contains_foldlM (fun _ _ _ _ compared => contains_compare compared) found,
    Region.contains_empty]
  simp

theorem changed_canonical (found : changed last? frame store = .ok updated) : updated.Canonical := by
  cases last? with
  | none =>
    cases found
    exact Region.ofRect_canonical _
  | some last =>
    refine Region.foldlM_canonical (fun _ _ _ canonical compared => ?_) found ?_
    next => exact compare_canonical compared canonical
    next => exact Region.ofRects_canonical []

theorem changed_narrows (found : changed last? frame store = .ok updated)
    (sizes : ∀ last ∈ last?, last.size = frame.size) :
    (∀ point, updated.contains point = true → frame.bounds.contains point = true ∧
      (last?.isSome = true → frame.info.updated.contains point = true)) ∧
    ∀ point, frame.bounds.contains point = true → updated.contains point = false →
      ∃ last ∈ last?, frame.info.updated.contains point = true →
        last.view store point = frame.view store point := by
  cases last? with
  | none =>
    obtain rfl : Region.ofRect frame.bounds = updated := Except.ok.inj found
    refine ⟨fun point => ?_, fun point inside outside => ?_⟩
    next =>
      rw [Region.contains_ofRect]
      exact fun inside => ⟨inside, nofun⟩
    next =>
      rw [Region.contains_ofRect, inside] at outside
      cases outside
  | some last =>
    have bounds : last.bounds = frame.bounds := congrArg Rect.ofSize (sizes last rfl)
    have each := contains_changed found
    rw [bounds] at each
    refine ⟨fun point reported => ?_, fun point inside silent => ⟨last, rfl, fun hinted => ?_⟩⟩
    next =>
      obtain ⟨hint, member, within, _⟩ := (each point).mp reported
      rw [Rect.contains_meet, Bool.and_eq_true] at within
      exact ⟨within.2, fun _ => (Region.contains_iff _ _).mpr ⟨hint, member, within.1⟩⟩
    next =>
      obtain ⟨hint, member, within⟩ := (Region.contains_iff _ _).mp hinted
      have both : (hint.meet frame.bounds).contains point = true := by
        rw [Rect.contains_meet, within, inside]
        rfl
      rw [← Bool.not_eq_true, each] at silent
      apply Classical.byContradiction
      intro apart
      exact silent ⟨hint, member, both, point, blockAt_contains both, apart⟩

theorem comparable?_size : ∀ last ∈ tracker.comparable? frame, last.size = frame.size := by
  intro last member
  simpa using (Option.mem_filter_iff.mp member).2

theorem process_cases (ran : tracker.process frame store = .ok (after, processed, next)) :
    ∃ updated joined, changed (tracker.comparable? frame) frame store = .ok updated ∧
      (frame.withUpdated updated).share store = (processed, joined) ∧ after.last = some processed ∧
        next = tracker.release joined := by
  obtain ⟨updated, found, ran⟩ := Checked.bind_eq_ok.mp ran
  generalize shared : (frame.withUpdated updated).share store = result at ran
  obtain ⟨handle, joined⟩ := result
  cases ran
  exact ⟨updated, joined, found, shared, rfl, rfl⟩

theorem process_eq_ok (ran : tracker.process frame store = .ok (after, processed, next)) :
    changed (tracker.comparable? frame) frame store = .ok processed.info.updated ∧
      after.last = some processed ∧ processed.size = frame.size := by
  obtain ⟨updated, joined, found, shared, kept, _⟩ := process_cases ran
  have size := (frame.withUpdated updated).share_size store
  have info := (frame.withUpdated updated).share_info store
  rw [shared] at size info
  exact ⟨by rw [info]; exact found, kept, size⟩

theorem process_view {others : Multiset Frame}
    (owned : Owned store ((tracker.frames + {frame}) + others))
    (ran : tracker.process frame store = .ok (after, processed, next)) :
    processed.view next = frame.view store := by
  obtain ⟨updated, joined, _, shared, _, rfl⟩ := process_cases ran
  have renamed : Exchange store {frame} store {frame.withUpdated updated} := .of_chain (by rfl) store
  have exchange := renamed.trans ((frame.withUpdated updated).share_exchange store)
  have plane := (frame.withUpdated updated).share_plane store
  rw [shared] at exchange plane
  have held := (exchange.behind tracker.frames others owned).1
  rw [add_assoc] at held
  have bytes := (tracker.release_exchange joined _ held).2 processed (by simp)
  exact (Frame.view_congr bytes).trans (Frame.view_eq_of_plane plane)

end ChangeTracker

end ScreenCapture
