import ScreenCapture.Proofs.Layout.Holders
import ScreenCapture.Proofs.Layout.Segments
import ScreenCapture.Proofs.Ownership.Sharing

set_option autoImplicit false

namespace ScreenCapture

namespace Store

variable {store next : Store} {supplier : Nat}

def Supplies (store : Store) (supplier : Nat) : Prop :=
  ∃ created, store.suppliers[supplier]? = some ⟨created, none⟩

theorem Supplies.congr (supplies : store.Supplies supplier)
    (same : next.suppliers = store.suppliers) : next.Supplies supplier := by
  unfold Supplies
  rw [same]
  exact supplies

theorem suppliers_release (buffer : BufferId) (groups : List GroupId) (store : Store) :
    (store.release buffer groups).suppliers = store.suppliers := by
  induction groups generalizing store with
  | nil => rfl
  | cons group inner ih =>
    unfold release
    dsimp only
    split
    next => exact ih (store.leave group)
    next => rfl

theorem requestSegment_answers {length : Nat} (supplies : store.Supplies supplier)
    (room : length ≤ allocationLimit) : ∃ id next,
      store.requestSegment supplier length = .ok (some id, next) ∧ next.buffers = store.buffers ∧
        next.Supplies supplier := by
  obtain ⟨created, known⟩ := supplies
  obtain ⟨next, granted, same, left⟩ := requestSegment_granted known
    ((Supplier.allows_iff _ length).mpr nofun) room
  exact ⟨created, next, granted, same, lowHalf (created + 1), left⟩

end Store

namespace Frame

variable {frame : Frame} {store : Store} {size : Size} {supplier : Nat}

theorem suppliers_share (frame : Frame) (store : Store) :
    (frame.share store).2.suppliers = store.suppliers := by
  unfold share
  split <;> rfl

theorem suppliers_releaseSlot (slot : Option Frame) (store : Store) :
    (Queue.releaseSlot slot store).suppliers = store.suppliers := by
  cases slot with
  | none => rfl
  | some frame => exact Store.suppliers_release ..

def IsPlain (frame : Frame) : Prop :=
  frame.groups = [] ∨ frame.wrapping = .shared ∧ ∃ group, frame.groups = [group]

theorem IsPlain.share (plain : frame.IsPlain) : (frame.share store).1.IsPlain := by
  rcases plain with bare | ⟨wrapped, group, groups⟩
  next =>
    have wrapped : frame.share store = ({ frame with
        groups := [(store.addGroup 2).1], wrapping := .shared }, (store.addGroup 2).2) := by
      unfold Frame.share
      split
      next found => simp [bare] at found
      next => simp only [bare]
    rw [wrapped]
    exact .inr ⟨rfl, _, rfl⟩
  next =>
    have same : frame.share store = (frame, store.join group) := by simp [Frame.share, wrapped, groups]
    rw [same]
    exact .inr ⟨wrapped, group, groups⟩

theorem IsPlain.length_le (plain : frame.IsPlain) : frame.groups.length ≤ 1 := by
  rcases plain with bare | ⟨_, group, groups⟩
  next => simp [bare]
  next => simp [groups]

section Creation

variable (proper : 0 ≤ size.width ∧ 0 ≤ size.height) (room : size.packedBytes ≤ allocationLimit)

include proper room

theorem createInSegment_answers (supplies : store.Supplies supplier) : ∃ next,
    createInSegment size supplier store =
      .ok (.ok (onBuffer size size.rowBytes store.buffers.size), next) ∧ next.Supplies supplier := by
  obtain ⟨id, supplied, requested, same, still⟩ := Store.requestSegment_answers supplies room
  have below : size.packedBytes < addressLimit := Nat.lt_of_le_of_lt room (by decide)
  rw [createInSegment, size.isNegative_eq_false_iff.mpr proper, if_neg Bool.false_ne_true, requested,
    Checked.ok_bind, ← same]
  exact ⟨_, congrArg Except.ok (overBytes_zeros below proper (.segment id)), still⟩

theorem create_answers {source : Source} (known : source = .heap ∨ source = .segments supplier)
    (supplies : store.Supplies supplier) : ∃ next, create source size store =
      .ok (.ok (onBuffer size size.rowBytes store.buffers.size), next) ∧ next.Supplies supplier := by
  rcases known with rfl | rfl
  next =>
    rw [create, createOnHeap_answers proper room]
    exact ⟨_, rfl, supplies⟩
  next => exact createInSegment_answers proper room supplies

end Creation

end Frame

namespace Queue

variable {queue : Queue} {store : Store} {size : Size} {source : Source} {supplier : Nat}
  {others : Multiset Frame}

section Conditions

variable (proper : 0 ≤ size.width ∧ 0 ≤ size.height) (room : size.packedBytes ≤ allocationLimit)
  (known : source = .heap ∨ source = .segments supplier) (supplies : store.Supplies supplier)
  (plain : ∀ frame ∈ queue.frames, frame.IsPlain)

include proper room known supplies plain

theorem renew_answers : ∃ frame after next, queue.renew size source store = .ok (.ok frame, after, next) ∧
    after.current = some frame ∧ frame.isWritable next = true ∧ next.Supplies supplier ∧
      ∀ frame ∈ after.frames, frame.IsPlain := by
  obtain ⟨grown, created, still⟩ := Frame.create_answers proper room known supplies
  rw [renew, created, Checked.ok_bind]
  refine ⟨_, _, _, rfl, rfl, rfl, still.congr (Frame.suppliers_releaseSlot _ _), ?_⟩
  intro frame member
  rcases Multiset.mem_add.mp member with made | kept
  next =>
    cases Multiset.mem_singleton.mp made
    exact .inl rfl
  next => exact plain frame (Multiset.mem_add.mpr (.inr kept))

theorem prepare_answers (owned : Owned store (queue.frames + others)) : ∃ frame after next,
    queue.prepare size source store = .ok (.ok frame, after, next) ∧ after.current = some frame ∧
      frame.isWritable next = true ∧ next.Supplies supplier ∧
        ∀ frame ∈ after.frames, frame.IsPlain := by
  unfold prepare
  split
  next frame found =>
    split
    next reusable =>
      rw [isReusable, Bool.and_eq_true, Bool.not_eq_true'] at reusable
      have flat := (plain frame (by simp [frames, found, held])).length_le
      rw [frames, found, add_assoc] at owned
      have alone := Frame.isShared_eq_not_isWritable owned flat
      rw [reusable.2] at alone
      exact ⟨frame, queue, store, rfl, found, by simpa using alone.symm, supplies, plain⟩
    next => exact renew_answers proper room known supplies plain
  next => exact renew_answers proper room known supplies plain

end Conditions

end Queue

end ScreenCapture
