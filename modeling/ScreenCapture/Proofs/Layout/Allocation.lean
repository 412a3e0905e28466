import ScreenCapture.Proofs.Layout.Holders
import ScreenCapture.Proofs.Layout.Runs

set_option autoImplicit false

namespace ScreenCapture

def Store.Allocated (store : Store) : Prop := ∀ id, (store.bytes id).size ≤ allocationLimit

namespace Store.Allocated

variable {store next : Store} {bytes : Bytes}

theorem empty : Store.empty.Allocated := fun _ => Nat.zero_le _

theorem congr (allocated : store.Allocated) (same : next.buffers = store.buffers) : next.Allocated := by
  intro id
  simp only [Store.bytes, same]
  exact allocated id

theorem setBytes (allocated : store.Allocated) (id : BufferId) (room : bytes.size ≤ allocationLimit) :
    (store.setBytes id bytes).Allocated := by
  intro other
  rw [bytes_setBytes]
  split
  next => exact room
  next => exact allocated other

theorem addBuffer (allocated : store.Allocated) (backing : Backing) (room : bytes.size ≤ allocationLimit) :
    (store.addBuffer backing bytes).2.Allocated := by
  intro id
  rcases Nat.lt_trichotomy id store.buffers.size with old | rfl | unknown
  next =>
    rw [bytes_addBuffer _ _ _ _ old]
    exact allocated id
  next =>
    rw [Frame.bytes_addBuffer_new]
    exact room
  next =>
    have none : (store.addBuffer backing bytes).2.buffers[id]? = none :=
      Array.getElem?_eq_none (by simp only [Store.addBuffer, Array.size_push]; omega)
    simp only [Store.bytes, none]
    exact Nat.zero_le _

theorem release (allocated : store.Allocated) (buffer : BufferId) (groups : List GroupId) :
    (store.release buffer groups).Allocated := by
  induction groups generalizing store with
  | nil => exact allocated.setBytes buffer (Nat.zero_le _)
  | cons group inner ih =>
    have left : (store.leave group).Allocated := allocated.congr rfl
    unfold Store.release
    dsimp only
    split
    next => exact ih left
    next => exact left

theorem releaseSlot (allocated : store.Allocated) (slot : Option Frame) :
    (Queue.releaseSlot slot store).Allocated := by
  cases slot with
  | none => exact allocated
  | some frame => exact allocated.release frame.buffer frame.groups

end Store.Allocated

theorem Holder.release_allocated {store : Store} (allocated : store.Allocated) (holder : Holder) :
    (holder.release store).Allocated := by
  cases holder with
  | ofFrame frame => exact allocated.release frame.buffer frame.groups
  | ofQueue queue => exact (allocated.releaseSlot queue.current).releaseSlot queue.previous
  | ofTracker tracker => exact allocated.releaseSlot tracker.last
  | ofCursor cursor => exact allocated.releaseSlot cursor.image

namespace Frame

variable {frame : Frame} {store next : Store} {made : Except Refusal Frame}

theorem Layout.packedBytes_le (layout : frame.Layout store) :
    frame.size.packedBytes ≤ (store.bytes frame.buffer).size := by
  rw [packedBytes_eq]
  cases high : frame.size.height.toNat with
  | zero => simp
  | succ above =>
    have line := layout.row_le (y := above) (by omega)
    have rows := Nat.mul_le_mul_left above layout.rows
    rw [Nat.add_one_mul]
    omega

theorem share_buffers (frame : Frame) (store : Store) : (frame.share store).2.buffers = store.buffers := by
  unfold share
  split <;> rfl

theorem overBytes_allocated (size : Size) (stride : Nat) (backing : Backing) {bytes : Bytes}
    (room : bytes.size ≤ allocationLimit) (allocated : store.Allocated) :
    (overBytes size stride backing bytes store).2.Allocated := by
  unfold overBytes
  split
  next => exact allocated
  next => exact allocated.addBuffer backing room

theorem createOnHeap_allocated (size : Size) (allocated : store.Allocated) :
    (createOnHeap size store).2.Allocated := by
  unfold createOnHeap
  split
  next => exact allocated
  next =>
    split
    next => exact allocated
    next small => exact allocated.addBuffer .heap (by rw [Bytes.size_zeros]; omega)

theorem create_allocated {source : Source} {size : Size} (allocated : store.Allocated)
    (created : create source size store = .ok (made, next)) : next.Allocated := by
  cases source with
  | heap =>
    have built := createOnHeap_allocated size allocated
    rw [Except.ok.inj created] at built
    exact built
  | segments supplier =>
    rw [create, createInSegment] at created
    split at created
    next =>
      cases created
      exact allocated
    next =>
      obtain ⟨⟨id, supplied⟩, requested, created⟩ := Checked.bind_eq_ok.mp created
      have kept : supplied.Allocated := allocated.congr (Store.requestSegment_buffers requested)
      dsimp only at created
      split at created
      next =>
        cases created
        exact kept
      next id =>
        have room : (Bytes.zeros size.packedBytes).size ≤ allocationLimit :=
          (Bytes.size_zeros _).trans_le (requestSegment_length requested)
        have built := overBytes_allocated size size.rowBytes (.segment id) room kept
        rw [Except.ok.inj created] at built
        exact built

theorem duplicate_allocated (layout : frame.Layout store) (allocated : store.Allocated)
    (copied : frame.duplicate store = .ok (made, next)) : next.Allocated := by
  have room := layout.packedBytes_le.trans (allocated frame.buffer)
  obtain ⟨bytes, _, length, same⟩ := layout.duplicate_eq room
  cases copied.symm.trans same
  exact allocated.addBuffer .heap (length.symm ▸ room)

end Frame

def Action.Allocates : Action → Prop
  | .create (.overBytes _ _ _ bytes) => bytes.size ≤ allocationLimit
  | _ => True

theorem Creation.run_allocated {creation : Creation} {store next : Store} {made : List Holder}
    (isFrame : creation.IsFrame) (allocates : Action.Allocates (.create creation))
    (allocated : store.Allocated) (ran : creation.run store = .ok (made, next)) : next.Allocated := by
  cases creation with
  | supplier limit =>
    cases ran
    exact allocated.congr rfl
  | frame source size =>
    obtain ⟨⟨result, reserved⟩, created, ran⟩ := Checked.bind_eq_ok.mp ran
    cases ran
    exact Frame.create_allocated allocated created
  | overBytes size stride backing bytes =>
    simp only [run] at ran
    obtain ⟨rfl, rfl⟩ := Prod.mk.inj (Except.ok.inj ran)
    exact Frame.overBytes_allocated size stride backing allocates allocated
  | queue | tracker | cursor | drawn _ => cases isFrame

theorem FrameChange.run_allocated {change : FrameChange} {store next : Store} {frame changed : Frame}
    {made : List Holder} (keeps : change.KeepsLength) (layout : frame.Layout store)
    (allocated : store.Allocated) (ran : change.run store frame = .ok (changed, made, next)) :
    next.Allocated := by
  cases change with
  | share =>
    simp only [run, Except.ok.injEq, Prod.mk.injEq] at ran
    obtain ⟨rfl, rfl, rfl⟩ := ran
    exact allocated.congr (frame.share_buffers store)
  | duplicate =>
    obtain ⟨⟨result, reserved⟩, copied, ran⟩ := Checked.bind_eq_ok.mp ran
    cases ran
    exact Frame.duplicate_allocated layout allocated copied
  | describe info =>
    cases ran
    exact allocated
  | write change =>
    obtain ⟨written, edited, ran⟩ := Checked.bind_eq_ok.mp ran
    cases ran
    obtain ⟨_, bytes, changed, rfl⟩ := Frame.edit_eq_ok_iff.mp edited
    exact allocated.setBytes _ (keeps _ _ changed ▸ allocated frame.buffer)

theorem Change.run_allocated {change : Change} {store next : Store} {holder : Holder}
    {made : List Holder} (isFrame : change.IsFrame) (laid : LaidOut store holder.frames)
    (allocated : store.Allocated) (ran : change.run store holder = .ok (made, next)) :
    next.Allocated := by
  cases change with
  | within slot change =>
    simp only [run] at ran
    split at ran
    next =>
      cases ran
      exact allocated
    next frame found =>
      obtain ⟨⟨changed, added, reached⟩, inner, ran⟩ := Checked.bind_eq_ok.mp ran
      cases ran
      obtain ⟨rest, before, _⟩ := Holder.frame?_split found
      have layout := laid frame (by rw [before]; exact Multiset.mem_add.mpr (.inl (by simp)))
      exact FrameChange.run_allocated isFrame layout allocated inner
  | drop =>
    cases ran
    exact holder.release_allocated allocated
  | crop rect =>
    cases holder with
    | ofFrame frame =>
      obtain ⟨⟨cropped, reserved⟩, taken, ran⟩ := Checked.bind_eq_ok.mp ran
      cases ran
      obtain ⟨_, _, rfl⟩ | ⟨_, rfl, _⟩ := Frame.crop?_cases taken
      next => exact allocated.release frame.buffer frame.groups
      next => exact allocated
    | ofQueue _ | ofTracker _ | ofCursor _ =>
      cases ran
      exact allocated
  | toCursor _ | advance | prepare _ _ | reset | forget | setHotspot _ | duplicateCursor =>
    cases isFrame

namespace Holdings

structure Sound (holdings : Holdings) : Prop where
  owned : Owned holdings.store holdings.live
  laid : LaidOut holdings.store holdings.live
  allocated : holdings.store.Allocated

theorem start_sound : start.Sound := ⟨start_owned, .zero, .empty⟩

theorem Sound.step {holdings next : Holdings} {action : Action} (sound : holdings.Sound)
    (isFrame : action.IsFrame) (allocates : action.Allocates)
    (stepped : holdings.step action = .ok next) : next.Sound := by
  obtain ⟨owned, laid⟩ := (step_upkeep isFrame stepped).settled sound.owned sound.laid
  refine ⟨owned, laid, ?_⟩
  cases action with
  | create creation =>
    obtain ⟨⟨made, reserved⟩, ran, stepped⟩ := Checked.bind_eq_ok.mp stepped
    cases stepped
    exact Creation.run_allocated isFrame allocates sound.allocated ran
  | change index change =>
    simp only [Holdings.step] at stepped
    split at stepped
    next =>
      cases stepped
      exact sound.allocated
    next holder found =>
      obtain ⟨⟨made, changed⟩, ran, stepped⟩ := Checked.bind_eq_ok.mp stepped
      cases stepped
      have split := sound.laid
      rw [live, framesOf_eraseIdx found] at split
      exact Change.run_allocated isFrame (LaidOut.add.mp split).1 sound.allocated ran
  | handOver index other handover => cases isFrame

theorem Sound.run {actions : List Action} {holdings next : Holdings} (sound : holdings.Sound)
    (isFrame : ∀ action ∈ actions, action.IsFrame) (allocates : ∀ action ∈ actions, action.Allocates)
    (ran : holdings.run actions = .ok next) : next.Sound := by
  induction actions generalizing holdings with
  | nil =>
    cases ran
    exact sound
  | cons action rest ih =>
    obtain ⟨middle, stepped, ran⟩ := Checked.bind_eq_ok.mp ran
    have first := sound.step (isFrame action (.head _)) (allocates action (.head _)) stepped
    exact ih first (fun later member => isFrame later (.tail _ member))
      (fun later member => allocates later (.tail _ member)) ran

end Holdings

end ScreenCapture
