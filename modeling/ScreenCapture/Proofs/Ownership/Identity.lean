import ScreenCapture.Proofs.Ownership.Sharing

set_option autoImplicit false

namespace ScreenCapture

namespace Accounted

variable {store : Store} {handles : Multiset Chain} {links : Multiset Link} {chain other : Chain}

theorem link_eq_of_root (accounted : Accounted store handles links) {link link' : Link}
    (known : link ∈ links) (known' : link' ∈ links) {buffer : BufferId}
    (direct : link.inner = ⟨[], buffer⟩) (direct' : link'.inner = ⟨[], buffer⟩) : link' = link := by
  obtain ⟨rest, rfl⟩ := Multiset.exists_cons_of_mem known
  refine (Multiset.mem_cons.mp known').resolve_right fun twice => ?_
  have single := accounted.single buffer
  have again : ⟨[], buffer⟩ ∈ owners handles rest := direct' ▸ inner_mem_owners twice
  have second := Multiset.count_pos.mpr again
  rw [owners_link, direct, Multiset.count_cons_self] at single
  omega

theorem root_linked (accounted : Accounted store handles links) (owner : chain ∈ owners handles links)
    {group : GroupId} (last : chain.groups.getLast? = some group) :
    ⟨group, [], chain.buffer⟩ ∈ links := by
  obtain ⟨before, groups⟩ := List.getLast?_eq_some_iff.mp last
  exact accounted.linked_of_suffix owner ⟨before, groups.symm⟩

theorem groups_ne_nil (accounted : Accounted store (chain ::ₘ handles) links) (held : other ∈ handles)
    (same : other.buffer = chain.buffer) : chain.groups ≠ [] := by
  intro bare
  exact accounted.buffer_ne_of_sole (by simp [bare]) held same

theorem buffer_eq_iff_last (accounted : Accounted store (chain ::ₘ other ::ₘ handles) links) :
    other.buffer = chain.buffer ↔
      chain.groups ≠ [] ∧ other.groups.getLast? = chain.groups.getLast? := by
  have owner : chain ∈ owners (chain ::ₘ other ::ₘ handles) links :=
    mem_owners_of_mem (Multiset.mem_cons_self _ _)
  have otherOwner : other ∈ owners (chain ::ₘ other ::ₘ handles) links :=
    mem_owners_of_mem (Multiset.mem_cons_of_mem (Multiset.mem_cons_self _ _))
  constructor
  · intro same
    have shared := accounted.groups_ne_nil (Multiset.mem_cons_self _ _) same
    have swapped := accounted
    rw [Multiset.cons_swap] at swapped
    have otherShared := swapped.groups_ne_nil (Multiset.mem_cons_self _ _) same.symm
    have last := List.getLast?_eq_some_getLast shared
    have otherLast := List.getLast?_eq_some_getLast otherShared
    have known := accounted.root_linked owner last
    have otherKnown := accounted.root_linked otherOwner otherLast
    have equal := accounted.link_eq_of_root known otherKnown rfl (by rw [same])
    rw [last, otherLast, (Link.mk.inj equal).1]
    exact ⟨shared, rfl⟩
  · intro ⟨shared, same⟩
    have last := List.getLast?_eq_some_getLast shared
    exact accounted.buffer_eq_of_mem otherOwner owner (List.mem_of_getLast? (same.trans last))
      (List.mem_of_getLast? last)

theorem chain_eq_of_head (accounted : Accounted store handles links)
    (owner : chain ∈ owners handles links) (otherOwner : other ∈ owners handles links)
    {group : GroupId} (first : chain.groups.head? = some group)
    (otherFirst : other.groups.head? = some group) : other = chain := by
  obtain ⟨inner, groups⟩ := List.head?_eq_some_iff.mp first
  obtain ⟨otherInner, otherGroups⟩ := List.head?_eq_some_iff.mp otherFirst
  have same := accounted.link_unique (accounted.linked _ owner _ _ groups)
    (accounted.linked _ otherOwner _ _ otherGroups) rfl
  obtain ⟨chainGroups, buffer⟩ := chain
  obtain ⟨otherChainGroups, otherBuffer⟩ := other
  simp only [Link.mk.injEq, Chain.mk.injEq, true_and] at same groups otherGroups ⊢
  rw [groups, otherGroups, same.1, same.2]
  exact ⟨rfl, rfl⟩

end Accounted

namespace Frame

variable {frame other third : Frame} {store : Store} {others : Multiset Frame}

theorem sharesBufferWith_iff_head : frame.sharesBufferWith other = true ↔
    ∃ group, frame.groups.head? = some group ∧ other.groups.head? = some group := by
  unfold sharesBufferWith
  split
  next group inner group' inner' groups groups' =>
    rw [groups, groups', beq_iff_eq, List.head?_cons, List.head?_cons]
    constructor
    · rintro rfl
      exact ⟨group, rfl, rfl⟩
    · rintro ⟨_, first, otherFirst⟩
      exact Option.some.inj (first.trans otherFirst.symm)
  next unlike =>
    simp only [Bool.false_eq_true, false_iff]
    rintro ⟨group, first, otherFirst⟩
    obtain ⟨inner, groups⟩ := List.head?_eq_some_iff.mp first
    obtain ⟨inner', groups'⟩ := List.head?_eq_some_iff.mp otherFirst
    exact unlike group inner group inner' groups groups'

theorem sharesBufferWith_comm (frame other : Frame) :
    other.sharesBufferWith frame = frame.sharesBufferWith other := by
  rw [Bool.eq_iff_iff, sharesBufferWith_iff_head, sharesBufferWith_iff_head]
  exact exists_congr fun group => and_comm

theorem sharesBufferWith_trans (first : frame.sharesBufferWith other = true)
    (second : other.sharesBufferWith third = true) : frame.sharesBufferWith third = true := by
  rw [sharesBufferWith_iff_head] at first second ⊢
  obtain ⟨group, head, otherHead⟩ := first
  obtain ⟨group', otherHead', thirdHead⟩ := second
  cases otherHead.symm.trans otherHead'
  exact ⟨group, head, thirdHead⟩

def innermost? (frame : Frame) : Option GroupId := frame.groups.getLast?

section Pair

variable (owned : Owned store ({frame, other} + others))

include owned

theorem sharesBufferWith_iff : frame.sharesBufferWith other = true ↔
    frame.groups ≠ [] ∧ other.chain = frame.chain := by
  obtain ⟨links, accounted⟩ := owned_pair.mp owned
  rw [sharesBufferWith_iff_head]
  constructor
  · intro ⟨group, first, otherFirst⟩
    refine ⟨fun bare => by simp [bare] at first, ?_⟩
    exact accounted.chain_eq_of_head (mem_owners_of_mem (Multiset.mem_cons_self _ _))
      (mem_owners_of_mem (Multiset.mem_cons_of_mem (Multiset.mem_cons_self _ _))) first otherFirst
  · intro ⟨shared, same⟩
    have groups : other.groups = frame.groups := congrArg Chain.groups same
    obtain ⟨group, first⟩ := Option.isSome_iff_exists.mp (List.isSome_head?.mpr shared)
    exact ⟨group, first, groups ▸ first⟩

theorem buffer_eq_iff_innermost : other.buffer = frame.buffer ↔
    frame.groups ≠ [] ∧ other.innermost? = frame.innermost? := by
  obtain ⟨links, accounted⟩ := owned_pair.mp owned
  exact accounted.buffer_eq_iff_last

theorem sharesBufferWith_iff_of_flat (flat : frame.groups.length ≤ 1)
    (otherFlat : other.groups.length ≤ 1) :
    frame.sharesBufferWith other = true ↔ other.buffer = frame.buffer := by
  rw [sharesBufferWith_iff owned, buffer_eq_iff_innermost owned]
  refine and_congr_right fun shared => ⟨fun same => ?_, fun last => ?_⟩
  · exact congrArg List.getLast? (congrArg Chain.groups same)
  · have buffer := (buffer_eq_iff_innermost owned).mpr ⟨shared, last⟩
    obtain ⟨group, groups⟩ := List.length_eq_one_iff.mp
      (Nat.le_antisymm flat (List.length_pos_iff.mpr shared))
    simp only [innermost?, groups, List.getLast?_singleton] at last
    have otherGroups : other.groups = [group] := by
      cases parts : other.groups with
      | nil => simp [parts] at last
      | cons head inner =>
        rw [parts, List.length_cons] at otherFlat
        have none : inner = [] := List.length_eq_zero_iff.mp (by omega)
        simpa [parts, none] using last
    simp only [chain, groups, otherGroups, buffer]

theorem share_sharesBufferWith_iff : (frame.share store).1.sharesBufferWith other = true ↔
    frame.wrapping = .shared ∧ frame.sharesBufferWith other = true := by
  obtain ⟨links, accounted⟩ := owned_pair.mp owned
  unfold share
  split
  next group inner wrapped groups => simp [wrapped]
  next groups unshared =>
    have fresh : ¬ other.groups.head? = some store.holders.size := by
      intro first
      obtain ⟨inner, parts⟩ := List.head?_eq_some_iff.mp first
      have known := accounted.linked other.chain (by simp [owners]) _ inner parts
      exact absurd (accounted.allocated _ known) (Nat.lt_irrefl _)
    rw [sharesBufferWith_iff_head, sharesBufferWith_iff_head]
    constructor
    · rintro ⟨group, first, otherFirst⟩
      obtain rfl : store.holders.size = group := by simpa [Store.addGroup] using first
      exact absurd otherFirst fresh
    · rintro ⟨wrapped, group, first, _⟩
      obtain ⟨inner, parts⟩ := List.head?_eq_some_iff.mp first
      exact absurd parts (unshared group inner wrapped)

end Pair

theorem share_buffer (frame : Frame) (store : Store) :
    (frame.share store).1.buffer = frame.buffer := by
  unfold share
  split <;> rfl

end Frame

namespace Holdings

variable {actions : List Action} {holdings : Holdings} {frame other : Frame} {others : Multiset Frame}

theorem sharesBuffer_exact_iff (ran : start.run actions = .ok holdings)
    (live : holdings.live = {frame, other} + others) :
    (frame.sharesBufferWith other = true ↔ frame.groups ≠ [] ∧ other.chain = frame.chain) ∧
    (other.buffer = frame.buffer ↔ frame.groups ≠ [] ∧ other.innermost? = frame.innermost?) ∧
    ((frame.sharesBufferWith other = true ↔ other.buffer = frame.buffer) ↔
      (other.innermost? = frame.innermost? → other.groups = frame.groups)) ∧
    (frame.groups.length ≤ 1 → other.groups.length ≤ 1 →
      (frame.sharesBufferWith other = true ↔ other.buffer = frame.buffer)) ∧
    other.sharesBufferWith frame = frame.sharesBufferWith other ∧
    (∀ third, frame.sharesBufferWith other = true → other.sharesBufferWith third = true →
      frame.sharesBufferWith third = true) ∧
    let handle := (frame.share holdings.store).1
    handle.buffer = frame.buffer ∧ (handle.sharesBufferWith other = true ↔
      frame.wrapping = .shared ∧ frame.sharesBufferWith other = true) := by
  have owned : Owned holdings.store ({frame, other} + others) := live ▸ run_owned ran
  have shares := Frame.sharesBufferWith_iff owned
  have meets := Frame.buffer_eq_iff_innermost owned
  refine ⟨shares, meets, ?_, Frame.sharesBufferWith_iff_of_flat owned, Frame.sharesBufferWith_comm _ _,
    fun third => Frame.sharesBufferWith_trans, frame.share_buffer _,
    Frame.share_sharesBufferWith_iff owned⟩
  rw [shares]
  constructor
  · intro exact last
    by_cases shared : frame.groups = []
    · rw [Frame.innermost?, Frame.innermost?, shared, List.getLast?_nil,
        List.getLast?_eq_none_iff] at last
      rw [last, shared]
    · exact congrArg Chain.groups (exact.mpr (meets.mpr ⟨shared, last⟩)).2
  · intro alone
    refine ⟨fun ⟨_, same⟩ => congrArg Chain.buffer same, fun same => ?_⟩
    obtain ⟨shared, last⟩ := meets.mp same
    simp only [Frame.chain, alone last, same]
    exact ⟨shared, trivial⟩

def shareCropped : List Action := cropShared ++ [.change 1 (.within .own .share)]

theorem sharesBuffer_exact_of_shareCropped : ∃ holdings frame other shared,
    start.run shareCropped = .ok holdings ∧ holdings.live = {frame, other} + {shared} ∧
    frame.groups = [1, 0] ∧ other.groups = [0] ∧
    (frame.sharesBufferWith other = true ↔ frame.groups ≠ [] ∧ other.chain = frame.chain) ∧
    (other.buffer = frame.buffer ↔ frame.groups ≠ [] ∧ other.innermost? = frame.innermost?) ∧
    ((frame.sharesBufferWith other = true ↔ other.buffer = frame.buffer) ↔
      (other.innermost? = frame.innermost? → other.groups = frame.groups)) ∧
    (frame.groups.length ≤ 1 → other.groups.length ≤ 1 →
      (frame.sharesBufferWith other = true ↔ other.buffer = frame.buffer)) ∧
    other.sharesBufferWith frame = frame.sharesBufferWith other ∧
    (∀ third, frame.sharesBufferWith other = true → other.sharesBufferWith third = true →
      frame.sharesBufferWith third = true) ∧
    let handle := (frame.share holdings.store).1
    handle.buffer = frame.buffer ∧ (handle.sharesBufferWith other = true ↔
      frame.wrapping = .shared ∧ frame.sharesBufferWith other = true) := by
  obtain ⟨holdings, original, crop, handle, ran, live, groups, originalGroups⟩ :
      ∃ holdings original crop handle, start.run shareCropped = .ok holdings ∧
        holdings.live = {original} + ({crop} + {handle}) ∧ crop.groups = [1, 0] ∧
          original.groups = [0] :=
    ⟨_, _, _, _, rfl, rfl, rfl, rfl⟩
  have pair : holdings.live = {crop, original} + {handle} := by
    rw [live, Multiset.insert_eq_cons, ← Multiset.singleton_add]
    ac_rfl
  exact ⟨holdings, crop, original, handle, ran, pair, groups, originalGroups,
    sharesBuffer_exact_iff ran pair⟩

theorem sharesBuffer_lost :
    (∃ holdings original crop, start.run cropShared = .ok holdings ∧
      holdings.live = {original} + {crop} ∧ crop.sharesBufferWith original = true) ∧
    ∃ holdings original crop handle, start.run shareCropped = .ok holdings ∧
      holdings.live = {original} + ({crop} + {handle}) ∧ original.buffer = crop.buffer ∧
        crop.sharesBufferWith original = false ∧ original.sharesBufferWith handle = false := by
  refine ⟨⟨_, _, _, rfl, rfl, ?_⟩, _, _, _, _, rfl, rfl, ?_, ?_, ?_⟩
  all_goals decide

end Holdings

end ScreenCapture
