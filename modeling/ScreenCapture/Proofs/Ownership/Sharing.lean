import ScreenCapture.Proofs.Ownership.Runs

set_option autoImplicit false

namespace ScreenCapture

namespace Frame

def Enters (other frame : Frame) : Prop :=
  ∃ group, frame.groups.head? = some group ∧ group ∈ other.groups

variable {frame : Frame} {store : Store} {others : Multiset Frame}

theorem isWritable_eq_false_iff (owned : Owned store ({frame} + others)) :
    frame.isWritable store = false ↔ ∃ other ∈ others, other.buffer = frame.buffer := by
  obtain ⟨links, accounted⟩ := owned_single.mp owned
  rw [← Bool.not_eq_true, isWritable_iff, accounted.sole_iff]
  simp [chain]

theorem isShared_iff (owned : Owned store ({frame} + others)) :
    frame.isShared store = true ↔ ∃ other ∈ others, other.Enters frame := by
  obtain ⟨links, accounted⟩ := owned_single.mp owned
  unfold isShared
  split
  next bare => simp [Enters, bare]
  next group inner groups =>
    rw [chain, groups] at accounted
    simp [accounted.shared_iff, Enters, groups, chain]

-- Only groups around groups can mislead.
theorem isShared_eq_not_isWritable (owned : Owned store ({frame} + others))
    (flat : frame.groups.length ≤ 1) : frame.isShared store = !frame.isWritable store := by
  cases groups : frame.groups with
  | nil => simp [isShared, isWritable, groups]
  | cons group inner =>
    obtain ⟨links, accounted⟩ := owned_single.mp owned
    have wanted := accounted.wanted _ (accounted.linked frame.chain (by simp [owners]) group inner groups)
    have last : inner = [] := by
      rw [groups, List.length_cons] at flat
      exact List.length_eq_zero_iff.mp (by omega)
    rw [Bool.eq_iff_iff]
    simp only [isShared, isWritable, groups, last, List.all_cons, List.all_nil, Bool.and_true,
      decide_eq_true_eq, Bool.not_eq_true', beq_eq_false_iff_ne]
    simp only at wanted
    omega

theorem Enters.buffer_eq (owned : Owned store ({frame} + others)) {other : Frame}
    (member : other ∈ others) (enters : other.Enters frame) : other.buffer = frame.buffer := by
  obtain ⟨links, accounted⟩ := owned_single.mp owned
  obtain ⟨group, first, passes⟩ := enters
  have owner : other.chain ∈ owners (frame.chain ::ₘ others.map chain) links :=
    mem_owners_of_mem (Multiset.mem_cons_of_mem (Multiset.mem_map_of_mem chain member))
  exact accounted.buffer_eq_of_mem owner (mem_owners_of_mem (Multiset.mem_cons_self _ _)) passes
    (List.mem_of_head? first)

theorem share_release_of_shared (owned : Owned store ({frame} + others)) {group : GroupId}
    {inner : List GroupId} (wrapped : frame.wrapping = .shared)
    (groups : frame.groups = group :: inner) :
    (frame.share store).1.isShared ((frame.share store).1.release (frame.share store).2) =
      frame.isShared store := by
  obtain ⟨links, accounted⟩ := owned_single.mp owned
  have known := accounted.linked frame.chain (by simp [owners]) group inner groups
  have wanted := accounted.wanted _ known
  have back : ((store.join group).leave group).holderCount group = store.holderCount group := by
    rw [Store.holderCount_leave, Store.holderCount_join _ _ _ (accounted.allocated _ known)]
    simp
  have handle : frame.share store = (frame, store.join group) := by simp [share, wrapped, groups]
  have dropped : frame.release (store.join group) = (store.join group).leave group := by
    simp only [release, groups, Store.release, back, Nat.ne_of_gt wanted, if_false]
  rw [handle, dropped]
  simp only [isShared, groups, back]

theorem share_release_of_unshared
    (apart : ¬ ∃ group inner, frame.wrapping = .shared ∧ frame.groups = group :: inner) :
    (frame.share store).1.isShared ((frame.share store).1.release (frame.share store).2) =
      false := by
  have alone : ((store.addGroup 2).2.leave (store.addGroup 2).1).holderCount
      (store.addGroup 2).1 = 1 := by
    rw [Store.holderCount_leave, Store.holderCount_addGroup]
    simp [Store.addGroup]
  unfold share
  split
  next group inner wrapped groups => exact absurd ⟨group, inner, wrapped, groups⟩ apart
  next => simp [release, Store.release, isShared, alone]

theorem share_release_isShared_iff (owned : Owned store ({frame} + others)) :
    (frame.share store).1.isShared ((frame.share store).1.release (frame.share store).2) =
        frame.isShared store ↔
      frame.wrapping = .shared ∨ frame.isShared store = false := by
  by_cases again : ∃ group inner, frame.wrapping = .shared ∧ frame.groups = group :: inner
  next =>
    obtain ⟨group, inner, wrapped, groups⟩ := again
    simp [share_release_of_shared owned wrapped groups, wrapped]
  next =>
    rw [share_release_of_unshared again]
    have bare : frame.wrapping = .shared → frame.isShared store = false := by
      intro wrapped
      cases groups : frame.groups with
      | nil => simp [isShared, groups]
      | cons group inner => exact absurd ⟨group, inner, wrapped, groups⟩ again
    constructor
    · exact fun same => .inr same.symm
    · exact fun outcome => (outcome.elim bare id).symm

end Frame

namespace Holdings

variable {actions : List Action} {holdings next : Holdings} {frame : Frame} {others : Multiset Frame}

theorem isShared_exact_iff (ran : start.run actions = .ok holdings)
    (live : holdings.live = {frame} + others) :
    (frame.isWritable holdings.store = false ↔ ∃ other ∈ others, other.buffer = frame.buffer) ∧
    (frame.isShared holdings.store = true ↔ ∃ other ∈ others, other.Enters frame) ∧
    ((frame.isShared holdings.store = true ↔ frame.isWritable holdings.store = false) ↔
      ((∃ other ∈ others, other.buffer = frame.buffer) → ∃ other ∈ others, other.Enters frame)) ∧
    let (handle, shared) := frame.share holdings.store
    (handle.isShared (handle.release shared) = frame.isShared holdings.store ↔
      frame.wrapping = .shared ∨ frame.isShared holdings.store = false) := by
  have owned : Owned holdings.store ({frame} + others) := live ▸ run_owned ran
  have seldom : (∃ other ∈ others, other.Enters frame) → ∃ other ∈ others, other.buffer = frame.buffer :=
    fun ⟨other, member, enters⟩ => ⟨other, member, enters.buffer_eq owned member⟩
  have unwritable := Frame.isWritable_eq_false_iff owned
  have shared := Frame.isShared_iff owned
  refine ⟨unwritable, shared, ?_, Frame.share_release_isShared_iff owned⟩
  rw [unwritable, shared]
  exact ⟨Iff.mpr, fun entered => ⟨seldom, entered⟩⟩

def cropShared : List Action :=
  [.create (.frame .heap ⟨2, 1⟩), .change 0 (.within .own .share), .change 0 (.crop ⟨0, 0, 1, 1⟩)]

def shareAndDrop : List Action := cropShared ++ [.change 1 (.within .own .share), .change 2 .drop]

theorem isShared_exact_of_shareAndDrop : ∃ holdings frame other,
    start.run shareAndDrop = .ok holdings ∧ holdings.live = {frame} + {other} ∧
    (frame.isWritable holdings.store = false ↔
      ∃ user ∈ ({other} : Multiset Frame), user.buffer = frame.buffer) ∧
    (frame.isShared holdings.store = true ↔
      ∃ user ∈ ({other} : Multiset Frame), user.Enters frame) ∧
    ((frame.isShared holdings.store = true ↔ frame.isWritable holdings.store = false) ↔
      ((∃ user ∈ ({other} : Multiset Frame), user.buffer = frame.buffer) →
        ∃ user ∈ ({other} : Multiset Frame), user.Enters frame)) ∧
    let (handle, shared) := frame.share holdings.store
    (handle.isShared (handle.release shared) = frame.isShared holdings.store ↔
      frame.wrapping = .shared ∨ frame.isShared holdings.store = false) := by
  obtain ⟨holdings, frame, other, ran, live⟩ : ∃ holdings frame other,
      start.run shareAndDrop = .ok holdings ∧ holdings.live = {frame} + {other} :=
    ⟨_, _, _, rfl, rfl⟩
  exact ⟨holdings, frame, other, ran, live, isShared_exact_iff ran live⟩

theorem isShared_lost :
    (∃ holdings frame other, start.run cropShared = .ok holdings ∧
      holdings.live = {other} + {frame} ∧ frame.isShared holdings.store = true) ∧
    ∃ holdings frame other, start.run shareAndDrop = .ok holdings ∧
      holdings.live = {other} + {frame} ∧ other.buffer = frame.buffer ∧
        frame.isWritable holdings.store = false ∧ frame.isShared holdings.store = false := by
  refine ⟨⟨_, _, _, rfl, rfl, ?_⟩, _, _, _, rfl, rfl, ?_, ?_, ?_⟩
  all_goals decide

end Holdings

end ScreenCapture
