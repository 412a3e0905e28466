import ScreenCapture.Proofs.Ownership.Holders

set_option autoImplicit false

namespace ScreenCapture

structure Demands where
  size : Size → Prop
  bytes : Bytes → Prop
  change : (Plane → Checked Bytes) → Prop
  bitmaps : CursorBitmaps → Prop

def Demands.any : Demands := ⟨fun _ => True, fun _ => True, fun _ => True, fun _ => True⟩

-- All that is ever done with frames: one after the other, and to some of them beside others. What
-- is true of each of these steps is by induction true of whatever is made up of them.
inductive Handling (demands : Demands) :
    Store → Multiset Frame → Store → Multiset Frame → Prop where
  | refl (store : Store) (frames : Multiset Frame) : Handling demands store frames store frames
  | trans {store middle next : Store} {old between new : Multiset Frame}
      (first : Handling demands store old middle between)
      (second : Handling demands middle between next new) : Handling demands store old next new
  | beside {store next : Store} {old new : Multiset Frame}
      (handling : Handling demands store old next new) (more : Multiset Frame) :
      Handling demands store (old + more) next (new + more)
  | supply (limit : Option Nat) (store : Store) :
      Handling demands store 0 (store.addSupplier limit).2 0
  | create {source : Source} {size : Size} {made : Except Refusal Frame} {store next : Store}
      (sized : demands.size size) (created : Frame.create source size store = .ok (made, next)) :
      Handling demands store 0 next (held made.toOption)
  | overBytes {size : Size} {bytes : Bytes} (sized : demands.size size) (filled : demands.bytes bytes)
      (stride : Nat) (backing : Backing) (store : Store) :
      Handling demands store 0 (Frame.overBytes size stride backing bytes store).2
        (held (Frame.overBytes size stride backing bytes store).1.toOption)
  | draw {bitmaps : CursorBitmaps} {image : Frame} {store reserved next : Store}
      (typed : demands.bitmaps bitmaps) (checked : bitmaps.check = .ok ())
      (created : Frame.createOnHeap bitmaps.imageSize store = (.ok image, reserved))
      (drawing : bitmaps.draw image reserved = .ok next) : Handling demands store 0 next {image}
  | describe (frame : Frame) (info : FrameInfo) (store : Store) :
      Handling demands store {frame} store {{ frame with info }}
  | write {frame : Frame} {change : Plane → Checked Bytes} {store next : Store}
      (keeps : demands.change change) (edited : frame.edit change store = .ok next) :
      Handling demands store {frame} next {frame}
  | share (frame : Frame) (store : Store) :
      Handling demands store {frame} (frame.share store).2 {(frame.share store).1, (frame.share store).1}
  | duplicate {frame : Frame} {made : Except Refusal Frame} {store next : Store}
      (copied : frame.duplicate store = .ok (made, next)) :
      Handling demands store {frame} next ({frame} + held made.toOption)
  | crop {frame : Frame} {rect : Rect} {cropped : Option Frame} {store next : Store}
      (taken : frame.crop? rect store = .ok (cropped, next)) :
      Handling demands store {frame} next (held cropped)
  | release (frame : Frame) (store : Store) : Handling demands store {frame} (frame.release store) 0

variable {demands : Demands}

namespace Handling

variable {store next : Store} {old new : Multiset Frame}

theorem behind (handling : Handling demands store old next new) (more : Multiset Frame) :
    Handling demands store (more + old) next (more + new) := by
  rw [add_comm more, add_comm more]
  exact handling.beside more

theorem cast {old' new' : Multiset Frame} (handling : Handling demands store old next new)
    (before : old' = old) (after : new' = new) : Handling demands store old' next new' := by
  subst before after
  exact handling

theorem releaseSlot (slot : Option Frame) (store : Store) :
    Handling demands store (held slot) (Queue.releaseSlot slot store) 0 := by
  cases slot with
  | none => exact .refl _ _
  | some frame => exact .release frame store

theorem exchange (handling : Handling demands store old next new) : Exchange store old next new := by
  induction handling with
  | refl => exact .refl _ _
  | trans _ _ first second => exact first.trans second
  | beside _ more ih => exact ih.beside more
  | supply limit store => exact .of_same (by rfl) (by rfl) 0
  | create _ created => exact Frame.create_exchange created
  | overBytes _ _ stride backing store => exact Frame.overBytes_exchange _ stride backing _ store
  | @draw bitmaps image store _ _ _ _ created drawing =>
    have begun := Frame.createOnHeap_exchange bitmaps.imageSize store
    rw [created] at begun
    exact begun.trans (Frame.draw_writes drawing).exchange
  | describe frame info store => exact .of_chain (by rfl) store
  | write _ edited => exact Frame.edit_exchange edited
  | share frame store => exact frame.share_exchange store
  | @duplicate frame _ _ _ copied =>
    exact ((Frame.duplicate_exchange copied).behind {frame}).cast (add_zero _).symm rfl
  | crop taken => exact Frame.crop?_exchange taken
  | release frame store => exact frame.release_exchange store

end Handling

namespace Queue

variable {queue after : Queue} {size : Size} {source : Source} {made : Except Refusal Frame}
  {store next : Store}

theorem replace_handling (queue : Queue) (frame : Frame) (store : Store) :
    Handling demands store (queue.frames + {frame}) (queue.replace frame store).2
      (queue.replace frame store).1.frames := by
  have dropped : Handling demands store (held queue.current + (held queue.previous + {frame})) _ _ :=
    (Handling.releaseSlot queue.current store).beside (held queue.previous + {frame})
  exact dropped.cast (add_assoc ..) (by simp [replace, frames, held, add_comm])

theorem reset_handling (queue : Queue) (store : Store) :
    Handling demands store queue.frames (queue.reset store).2 (queue.reset store).1.frames := by
  have first : Handling demands store queue.frames _ _ :=
    (Handling.releaseSlot queue.current store).beside (held queue.previous)
  rw [zero_add] at first
  exact first.trans (.releaseSlot queue.previous _)

theorem renew_handling (sized : demands.size size)
    (renewed : queue.renew size source store = .ok (made, after, next)) :
    Handling demands store queue.frames next after.frames := by
  obtain ⟨⟨created, reserved⟩, creating, renewed⟩ := Checked.bind_eq_ok.mp renewed
  cases renewed
  have begun := (Handling.create sized creating).beside queue.frames
  rw [zero_add] at begun
  have dropped : Handling demands reserved _ _ _ := (Handling.releaseSlot queue.current reserved).beside
    (held queue.previous + held made.toOption)
  refine begun.trans (dropped.cast ?_ ?_)
  next =>
    rw [← add_assoc, add_comm]
    rfl
  next =>
    rw [zero_add, add_comm (held queue.previous)]
    rfl

theorem prepare_handling (sized : demands.size size)
    (prepared : queue.prepare size source store = .ok (made, after, next)) :
    Handling demands store queue.frames next after.frames := by
  unfold prepare at prepared
  split at prepared
  next =>
    split at prepared
    next =>
      cases prepared
      exact .refl _ _
    next => exact renew_handling sized prepared
  next => exact renew_handling sized prepared

theorem prepare_exchange (prepared : queue.prepare size source store = .ok (made, after, next)) :
    Exchange store queue.frames next after.frames :=
  (prepare_handling trivial prepared : Handling .any store queue.frames next after.frames).exchange

theorem reset_exchange (queue : Queue) (store : Store) :
    Exchange store queue.frames (queue.reset store).2 (queue.reset store).1.frames :=
  (queue.reset_handling store : Handling .any ..).exchange

end Queue

namespace ChangeTracker

variable {tracker after : ChangeTracker} {frame processed : Frame} {store next : Store}

theorem release_handling (tracker : ChangeTracker) (store : Store) :
    Handling demands store tracker.frames (tracker.release store) 0 :=
  .releaseSlot tracker.last store

theorem process_handling (ran : tracker.process frame store = .ok (after, processed, next)) :
    Handling demands store (tracker.frames + {frame}) next (after.frames + {processed}) := by
  unfold process at ran
  obtain ⟨updated, _, ran⟩ := Checked.bind_eq_ok.mp ran
  have shared : Handling demands store {frame} _ _ :=
    (Handling.describe frame { frame.info with updated } store).trans
      (.share (frame.withUpdated updated) store)
  generalize (frame.withUpdated updated).share store = result at ran shared
  obtain ⟨handle, joined⟩ := result
  cases ran
  refine (shared.behind tracker.frames).trans ?_
  exact ((tracker.release_handling _).beside _).cast rfl (by simp [frames, held])

theorem process_exchange (ran : tracker.process frame store = .ok (after, processed, next)) :
    Exchange store (tracker.frames + {frame}) next (after.frames + {processed}) :=
  (process_handling ran : Handling .any ..).exchange

end ChangeTracker

namespace Cursor

variable {store next : Store}

theorem release_handling (cursor : Cursor) (store : Store) :
    Handling demands store cursor.frames (cursor.release store) 0 :=
  .releaseSlot cursor.image store

theorem ofImage_handling (image : Frame) (hotspot : Point) (store : Store) :
    Handling demands store {image} (ofImage image hotspot store).2
      (heldByCursor (ofImage image hotspot store).1.toOption) := by
  unfold ofImage
  split
  next => exact .release image store
  next => exact .refl _ _

theorem setImage_handling (cursor : Cursor) (image : Frame) (store : Store) :
    Handling demands store (cursor.frames + {image}) (cursor.setImage image store).2
      ((cursor.setImage image store).1.toOption.getD cursor).frames := by
  unfold setImage
  split
  next =>
    exact ((Handling.release image store).behind cursor.frames).cast rfl (by simp [Except.toOption])
  next => exact ((cursor.release_handling store).beside {image}).cast rfl (zero_add _).symm

theorem duplicate_cases {cursor : Cursor} {made : Except Refusal Cursor}
    (copied : cursor.duplicate store = .ok (made, next)) :
    (cursor.image = .none ∧ made = .ok cursor ∧ next = store) ∨
      ∃ image result, cursor.image = some image ∧ image.duplicate store = .ok (result, next) ∧
        made = result.map fun copy => { cursor with image := some copy } := by
  unfold duplicate at copied
  split at copied
  next bare =>
    cases copied
    exact .inl ⟨bare, rfl, rfl⟩
  next image shown =>
    obtain ⟨⟨_ | copy, reserved⟩, copying, copied⟩ := Checked.bind_eq_ok.mp copied
    all_goals
      cases copied
      exact .inr ⟨image, _, shown, copying, rfl⟩

theorem duplicate_handling {cursor : Cursor} {made : Except Refusal Cursor}
    (copied : cursor.duplicate store = .ok (made, next)) :
    Handling demands store cursor.frames next (cursor.frames + heldByCursor made.toOption) := by
  obtain ⟨bare, rfl, rfl⟩ | ⟨image, result, shown, copying, rfl⟩ := duplicate_cases copied
  next =>
    have none : cursor.frames = 0 := by rw [frames, bare, held]
    exact (Handling.refl next 0).cast none (by simp [Except.toOption, heldByCursor, none])
  next =>
    have begun : Handling demands store {image} _ _ := .duplicate copying
    rw [frames, shown, held]
    cases result with
    | error refusal => exact begun
    | ok image => exact begun

end Cursor

theorem CursorBitmaps.cursor_cases {bitmaps : CursorBitmaps} {made : Except Refusal Cursor}
    {store next : Store} (drawn : bitmaps.cursor store = .ok (made, next)) :
    (∃ refusal, made = .error refusal ∧ next = store) ∨
      ∃ image reserved written, bitmaps.check = .ok () ∧
        Frame.createOnHeap bitmaps.imageSize store = (.ok image, reserved) ∧
        bitmaps.draw image reserved = .ok written ∧
        Cursor.ofImage image bitmaps.hotspot written = (made, next) := by
  unfold cursor at drawn
  split at drawn
  next =>
    cases drawn
    exact .inl ⟨_, rfl, rfl⟩
  next checked =>
    split at drawn
    next refused =>
      cases drawn
      exact .inl ⟨_, rfl, Frame.createOnHeap_eq_error refused⟩
    next image reserved created =>
      obtain ⟨written, drawing, drawn⟩ := Checked.bind_eq_ok.mp drawn
      exact .inr ⟨image, reserved, written, checked, created, drawing, Except.ok.inj drawn⟩

theorem CursorBitmaps.cursor_handling {bitmaps : CursorBitmaps} {made : Except Refusal Cursor}
    {store next : Store} (typed : demands.bitmaps bitmaps)
    (drawn : bitmaps.cursor store = .ok (made, next)) :
    Handling demands store 0 next (heldByCursor made.toOption) := by
  obtain ⟨refusal, rfl, rfl⟩ | ⟨image, reserved, written, checked, created, drawing, placed⟩ :=
    cursor_cases drawn
  next => exact .refl _ _
  next =>
    have taken : Handling demands written {image} _ _ :=
      Cursor.ofImage_handling image bitmaps.hotspot written
    rw [placed] at taken
    exact (Handling.draw typed checked created drawing).trans taken

end ScreenCapture
