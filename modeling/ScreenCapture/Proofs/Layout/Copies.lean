import ScreenCapture.Proofs.Layout.Allocation
import ScreenCapture.Proofs.Ownership.Identity
import ScreenCapture.Proofs.Ownership.Isolation

set_option autoImplicit false

namespace ScreenCapture

namespace Frame

variable {frame handle : Frame} {store next : Store} {handles : Multiset Frame}

structure StandsFor (handle : Frame) (next : Store) (frame : Frame) (store : Store) : Prop where
  size : handle.size = frame.size
  stride : handle.stride = frame.stride
  data : handle.data next = frame.data store
  pixels : handle.pixels next = frame.pixels store
  info : handle.info = frame.info
  isCropped : handle.isCropped = frame.isCropped
  segment? : handle.segment? next = frame.segment? store

structure IsCopyOf (copy : Frame) (next : Store) (frame : Frame) (store : Store) : Prop where
  size : copy.size = frame.size
  stride : (copy.stride : Int) = 4 * frame.size.width
  data : frame.pixels store = .ok (copy.data next)
  pixels : copy.pixels next = frame.pixels store
  info : copy.info = frame.info
  onHeap : next.backing copy.buffer = .heap
  segment? : copy.segment? next = none
  isShared : copy.isShared next = false
  isWritable : copy.isWritable next = true
  isCropped : copy.isCropped = false

theorem standsFor_of_buffers (wrapping : Wrapping) (groups : List GroupId)
    (same : next.buffers = store.buffers) :
    StandsFor { frame with groups, wrapping } next frame store := by
  have bytes : next.bytes frame.buffer = store.bytes frame.buffer := by simp only [Store.bytes, same]
  have backing : next.backing frame.buffer = store.backing frame.buffer := by
    simp only [Store.backing, same]
  exact ⟨rfl, rfl, data_congr bytes, pixels_congr bytes, rfl, rfl, by
    simp only [Frame.segment?, bytes, backing]⟩

theorem StandsFor.addBuffer {backing : Backing} {bytes : Bytes}
    (stored : frame.buffer < store.buffers.size) :
    frame.StandsFor (store.addBuffer backing bytes).2 frame store := by
  have same := store.bytes_addBuffer backing bytes frame.buffer stored
  exact ⟨rfl, rfl, data_congr same, pixels_congr same, rfl, rfl, by
    simp only [Frame.segment?, same, Store.backing_addBuffer stored]⟩

theorem Layout.duplicate_isCopyOf (layout : frame.Layout store)
    (room : frame.size.packedBytes ≤ allocationLimit) : ∃ bytes copy,
      frame.duplicate store = .ok (.ok copy, (store.addBuffer .heap bytes).2) ∧
        copy.IsCopyOf (store.addBuffer .heap bytes).2 frame store := by
  obtain ⟨bytes, found, length, copied⟩ := layout.duplicate_eq room
  refine ⟨bytes, _, copied, ?_⟩
  have own := layout.packed_layout room length frame.info
  have same := bytes_addBuffer_new store .heap bytes
  have backing := store.backing_addBuffer_new .heap bytes
  have data : Frame.data { onBuffer frame.size frame.rowBytes store.buffers.size with info := frame.info }
      (store.addBuffer .heap bytes).2 = bytes := by
    simp only [Frame.data, onBuffer, same, Array.extract_size]
  refine ⟨rfl, ?_, found.trans (congrArg Except.ok data.symm), ?_, rfl, backing, ?_, rfl, rfl, rfl⟩
  next =>
    simp only [onBuffer, rowBytes, Size.rowBytes, bytesPerPixel]
    have proper := layout.width.1
    omega
  next =>
    rw [found]
    refine (own.pixels_eq_ok_iff length).mpr fun y below => ?_
    rw [own.row_eq below]
    simp only [onBuffer, same, Nat.zero_add]
    rfl
  next => simp only [Frame.segment?, onBuffer, backing]

theorem share_standsFor (frame : Frame) (store : Store) :
    (frame.share store).1.StandsFor (frame.share store).2 frame store := by
  unfold share
  split
  next => exact standsFor_of_buffers frame.wrapping frame.groups rfl
  next => exact standsFor_of_buffers .shared _ rfl

inductive Handles (frame : Frame) : Multiset Frame → Prop where
  | alone : Handles frame {frame}
  | share {handle : Frame} {handles : Multiset Frame} (store : Store)
      (known : Handles frame ({handle} + handles)) :
      Handles frame ({(handle.share store).1, (handle.share store).1} + handles)
  | drop {handle : Frame} {handles : Multiset Frame} (known : Handles frame ({handle} + handles)) :
      Handles frame handles

def Rewrapped (handle frame : Frame) : Prop :=
  handle = { frame with groups := handle.groups, wrapping := handle.wrapping }

def Joins (handle : Frame) (groups : List GroupId) : Prop :=
  handle.wrapping = .shared ∧ handle.groups = groups ∧ groups ≠ []

theorem share_joins (frame : Frame) (store : Store) : ∃ groups, (frame.share store).1.Joins groups := by
  unfold share
  split
  next group inner wrapped groups => exact ⟨group :: inner, wrapped, groups, List.cons_ne_nil _ _⟩
  next => exact ⟨_, rfl, rfl, List.cons_ne_nil _ _⟩

theorem Joins.share_eq {groups : List GroupId} (joins : handle.Joins groups) (store : Store) :
    (handle.share store).1 = handle := by
  obtain ⟨wrapped, same, shared⟩ := joins
  obtain ⟨group, inner, rfl⟩ := List.exists_cons_of_ne_nil shared
  simp only [share, wrapped, same]

theorem Rewrapped.share (rewrapped : handle.Rewrapped frame) (store : Store) :
    (handle.share store).1.Rewrapped frame := by
  unfold Frame.share
  split
  next => exact rewrapped
  next =>
    unfold Rewrapped at rewrapped ⊢
    rw [rewrapped]

theorem Handles.rewrapped (known : frame.Handles handles) : ∀ handle ∈ handles, handle.Rewrapped frame := by
  induction known with
  | alone => simp [Rewrapped]
  | share store known ih =>
    simp only [Multiset.mem_add, Multiset.mem_singleton, Multiset.insert_eq_cons, Multiset.mem_cons,
      or_self, or_imp, forall_and, forall_eq] at ih ⊢
    exact ⟨ih.1.share store, ih.2⟩
  | drop known ih => exact fun handle member => ih handle (Multiset.mem_add.mpr (.inr member))

theorem Handles.joins (known : frame.Handles handles) :
    handles.card ≤ 1 ∨ ∃ groups, ∀ handle ∈ handles, handle.Joins groups := by
  induction known with
  | alone => exact .inl (by simp)
  | @share handle handles store known ih =>
    refine .inr ?_
    rcases ih with alone | ⟨groups, joins⟩
    next =>
      have none : handles = 0 := by
        rw [Multiset.card_add, Multiset.card_singleton] at alone
        exact Multiset.card_eq_zero.mp (by omega)
      obtain ⟨groups, joins⟩ := handle.share_joins store
      exact ⟨groups, by simpa [none] using joins⟩
    next =>
      have same := (joins handle (by simp)).share_eq store
      refine ⟨groups, fun other member => joins other ?_⟩
      simpa [same] using member
  | drop known ih =>
    refine ih.imp (fun alone => ?_) fun ⟨groups, joins⟩ => ⟨groups, fun handle member => ?_⟩
    next =>
      rw [Multiset.card_add] at alone
      omega
    next => exact joins handle (Multiset.mem_add.mpr (.inr member))

theorem Handles.sharesBufferWith {first second : Frame} {others : Multiset Frame}
    (known : frame.Handles ({first, second} + others)) : first.sharesBufferWith second = true := by
  rcases known.joins with alone | ⟨groups, joins⟩
  next => simp at alone
  next =>
    obtain ⟨_, firstGroups, shared⟩ := joins first (by simp)
    obtain ⟨_, secondGroups, _⟩ := joins second (by simp)
    obtain ⟨group, inner, rfl⟩ := List.exists_cons_of_ne_nil shared
    exact sharesBufferWith_iff_head.mpr ⟨group, by rw [firstGroups]; rfl, by rw [secondGroups]; rfl⟩

theorem Rewrapped.standsFor (rewrapped : handle.Rewrapped frame) (store : Store) :
    handle.StandsFor store frame store := by
  rw [rewrapped]
  exact standsFor_of_buffers _ _ rfl

end Frame

namespace Holdings

variable {actions : List Action} {holdings : Holdings} {frame : Frame}

theorem copies_exact (isFrame : ∀ action ∈ actions, action.IsFrame)
    (allocates : ∀ action ∈ actions, action.Allocates) (ran : start.run actions = .ok holdings)
    (member : frame ∈ holdings.live) :
    (∃ copy next, frame.duplicate holdings.store = .ok (.ok copy, next) ∧
      copy.IsCopyOf next frame holdings.store ∧
      ∀ other ∈ holdings.live, other.StandsFor next other holdings.store ∧
        other.isShared next = other.isShared holdings.store) ∧
    ((frame.share holdings.store).1.StandsFor (frame.share holdings.store).2 frame holdings.store ∧
      ∀ other ∈ holdings.live, other.StandsFor (frame.share holdings.store).2 other holdings.store) ∧
    ∀ handles, frame.Handles handles →
      (∀ handle ∈ handles, ∀ store, handle.StandsFor store frame store) ∧
      ∀ first second others, handles = {first, second} + others → first.sharesBufferWith second = true := by
  have sound := start_sound.run isFrame allocates ran
  have layout := sound.laid frame member
  refine ⟨?_, ⟨frame.share_standsFor _, fun other _ => ?_⟩, fun handles known => ⟨?_, ?_⟩⟩
  next =>
    have room := layout.packedBytes_le.trans (sound.allocated frame.buffer)
    obtain ⟨bytes, copy, copied, isCopy⟩ := layout.duplicate_isCopyOf room
    exact ⟨copy, _, copied, isCopy, fun other held => ⟨.addBuffer (sound.owned.buffer_lt held), rfl⟩⟩
  next => exact Frame.standsFor_of_buffers other.wrapping other.groups (frame.share_buffers _)
  next => exact fun handle held store => (known.rewrapped handle held).standsFor store
  next =>
    rintro first second others rfl
    exact known.sharesBufferWith

def cropColumn : List Action :=
  [.create (.overBytes ⟨2, 2⟩ 9 .external #[1, 2, 3, 4, 5, 6, 7, 8, 9, 10, 11, 12, 13, 14, 15, 16, 17, 18]),
    .change 0 (.within .own .share), .change 0 (.crop ⟨1, 0, 2, 2⟩)]

theorem copies_exact_of_cropColumn : ∃ holdings column,
    (∀ action ∈ cropColumn, action.IsFrame) ∧ (∀ action ∈ cropColumn, action.Allocates) ∧
    start.run cropColumn = .ok holdings ∧ column ∈ holdings.live ∧
    (column.isCropped = true ∧ column.isShared holdings.store = true) ∧
    (∃ copy next, column.duplicate holdings.store = .ok (.ok copy, next) ∧
      copy.data next = #[5, 6, 7, 8, 14, 15, 16, 17] ∧ copy.isCropped = false ∧ copy.isShared next = false) ∧
    (column.share holdings.store).1.data (column.share holdings.store).2 = column.data holdings.store ∧
    ((column.share holdings.store).1.share (column.share holdings.store).2).1.sharesBufferWith
      (column.share holdings.store).1 = true := by
  obtain ⟨holdings, handle, column, ran, live, cropped, shared, packed⟩ :
      ∃ holdings handle column, start.run cropColumn = .ok holdings ∧
        holdings.live = {handle} + {column} ∧ column.isCropped = true ∧
          column.isShared holdings.store = true ∧
          column.pixels holdings.store = .ok #[5, 6, 7, 8, 14, 15, 16, 17] :=
    ⟨_, _, _, rfl, rfl, rfl, rfl, by decide +kernel⟩
  have member : column ∈ holdings.live := by simp [live]
  have isFrame : ∀ action ∈ cropColumn, action.IsFrame := by
    simp [cropColumn, Action.IsFrame, Creation.IsFrame, Change.IsFrame, FrameChange.KeepsLength]
    decide
  have allocates : ∀ action ∈ cropColumn, action.Allocates := by
    simp [cropColumn, Action.Allocates, allocationLimit]
  obtain ⟨⟨copy, next, copied, isCopy, _⟩, ⟨stands, _⟩, handles⟩ :=
    copies_exact isFrame allocates ran member
  have single : column.Handles ({column} + 0) := by simpa using .alone
  have once := single.share holdings.store
  rw [add_zero, Multiset.insert_eq_cons, ← Multiset.singleton_add] at once
  have twice := once.share (column.share holdings.store).2
  have mixed (first second : Frame) :
      ({first, first} : Multiset Frame) + {second} = {first, second} + {first} := by
    simp only [Multiset.insert_eq_cons, ← Multiset.singleton_add]
    ac_rfl
  refine ⟨holdings, column, isFrame, allocates, ran, member, ⟨cropped, shared⟩,
    ⟨copy, next, copied, Except.ok.inj (isCopy.data.symm.trans packed), isCopy.isCropped, isCopy.isShared⟩,
    stands.data, (handles _ twice).2 _ _ _ (mixed _ _)⟩

end Holdings

end ScreenCapture
