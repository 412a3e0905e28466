import ScreenCapture.Proofs.Changes.Tracking
import ScreenCapture.Proofs.Layout.Upkeep
import ScreenCapture.Proofs.Pixels.Painting

set_option autoImplicit false

namespace ScreenCapture

theorem Store.requestSegment_buffers {store next : Store} {supplier length : Nat} {id : Option Int}
    (requested : store.requestSegment supplier length = .ok (id, next)) :
    next.buffers = store.buffers := by
  unfold requestSegment at requested
  split at requested
  next =>
    obtain ⟨answer, _, requested⟩ := Checked.bind_eq_ok.mp requested
    split at requested
    all_goals
      cases requested
      rfl
  next =>
    cases requested
    rfl

namespace Frame

variable {frame created : Frame} {store next : Store} {size : Size}

theorem overBytes_eq_ok {stride : Nat} {backing : Backing} {bytes : Bytes}
    (made : overBytes size stride backing bytes store = (.ok created, next)) :
    created = onBuffer size stride store.buffers.size := by
  unfold overBytes at made
  split at made
  next => cases made
  next =>
    cases made
    rfl

theorem createInSegment_eq_ok {supplier : Nat}
    (made : createInSegment size supplier store = .ok (.ok created, next)) :
    created = onBuffer size size.rowBytes store.buffers.size := by
  unfold createInSegment at made
  split at made
  next => cases made
  next =>
    obtain ⟨⟨id, supplied⟩, requested, made⟩ := Checked.bind_eq_ok.mp made
    have same := Store.requestSegment_buffers requested
    dsimp only at same made
    split at made
    next => cases made
    next => rw [overBytes_eq_ok (Except.ok.inj made), same]

theorem create_eq_ok {source : Source} (made : create source size store = .ok (.ok created, next)) :
    created = onBuffer size size.rowBytes store.buffers.size := by
  cases source with
  | heap => exact (createOnHeap_eq_ok (Except.ok.inj made)).2.2.1
  | segments supplier => exact createInSegment_eq_ok made

theorem paint_upkeep {pattern : Pattern} {sequence : Nat} {changed : Region}
    (solid : frame.size.isEmpty = false)
    (painted : pattern.paint frame sequence store = .ok (changed, next)) :
    Upkeep store {frame} next {frame.withUpdated changed} := by
  have renamed : Exchange next {frame} next {frame.withUpdated changed} := .of_chain (by rfl) next
  refine .of_exchange ((paint_writes painted).exchange.trans renamed) fun laid => ?_
  have layout := LaidOut.single.mp laid
  obtain ⟨_, _, length, _⟩ := Pattern.paint_eq_ok layout.fits solid painted
  exact LaidOut.single.mpr ((layout.congr length).withInfo _)

end Frame

namespace Queue

variable {queue after : Queue} {size : Size} {source : Source} {made : Except Refusal Frame}
  {store next : Store}

theorem prepare_upkeep (bounded : size.Bounded)
    (prepared : queue.prepare size source store = .ok (made, after, next)) :
    Upkeep store queue.frames next after.frames :=
  (prepare_handling bounded prepared : Handling .frames ..).upkeep Demands.frames_layOut

theorem renew_eq_ok (renewed : queue.renew size source store = .ok (made, after, next)) :
    after = { queue with current := made.toOption, reallocations := queue.reallocations + 1 } ∧
      ∀ frame, made = .ok frame → frame = .onBuffer size size.rowBytes store.buffers.size := by
  obtain ⟨⟨created, reserved⟩, creating, renewed⟩ := Checked.bind_eq_ok.mp renewed
  cases renewed
  refine ⟨rfl, fun frame same => ?_⟩
  rw [same] at creating
  exact Frame.create_eq_ok creating

theorem prepare_cases (prepared : queue.prepare size source store = .ok (made, after, next)) :
    (∃ frame, queue.current = some frame ∧ isReusable frame size store = true ∧
      made = .ok frame ∧ after = queue ∧ next = store) ∨
    (∀ frame, queue.current = some frame → isReusable frame size store = false) ∧
      queue.renew size source store = .ok (made, after, next) := by
  unfold prepare at prepared
  split at prepared
  next frame found =>
    split at prepared
    next reusable =>
      cases prepared
      exact .inl ⟨frame, found, reusable, rfl, rfl, rfl⟩
    next busy =>
      refine .inr ⟨fun other same => ?_, prepared⟩
      cases found.symm.trans same
      simpa using busy
  next hollow => exact .inr ⟨fun frame same => by simp [hollow] at same, prepared⟩

theorem prepare_current {frame : Frame}
    (prepared : queue.prepare size source store = .ok (.ok frame, after, next)) :
    after.current = some frame ∧ frame.size = size := by
  obtain ⟨kept, found, reusable, same, rfl, _⟩ | ⟨_, renewed⟩ := prepare_cases prepared
  next =>
    cases same
    rw [isReusable, Bool.and_eq_true, decide_eq_true_eq] at reusable
    exact ⟨found, reusable.1⟩
  next =>
    obtain ⟨rfl, fresh⟩ := renew_eq_ok renewed
    exact ⟨rfl, congrArg Frame.size (fresh frame rfl)⟩

end Queue

namespace ChangeTracker

variable {tracker after : ChangeTracker} {frame processed : Frame} {store next : Store}

theorem process_upkeep (ran : tracker.process frame store = .ok (after, processed, next)) :
    Upkeep store (tracker.frames + {frame}) next (after.frames + {processed}) :=
  (process_handling ran : Handling .frames ..).upkeep Demands.frames_layOut

end ChangeTracker

end ScreenCapture
