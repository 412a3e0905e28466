import Mathlib.Algebra.Order.BigOperators.Group.Multiset
import Mathlib.Algebra.Order.Group.Nat
import ScreenCapture.Frame.Share

set_option autoImplicit false

namespace ScreenCapture

structure Chain where
  groups : List GroupId
  buffer : BufferId
deriving DecidableEq

structure Link where
  group : GroupId
  inner : Chain
deriving DecidableEq

def directHolders (chains : Multiset Chain) (group : GroupId) : Nat :=
  chains.countP fun chain => chain.groups.head? = some group

theorem directHolders_cons (chain : Chain) (chains : Multiset Chain) (group : GroupId) :
    directHolders (chain ::ₘ chains) group =
      directHolders chains group + if chain.groups.head? = some group then 1 else 0 := by
  simp only [directHolders, Multiset.countP_cons]

theorem directHolders_pos {chains : Multiset Chain} {group : GroupId} :
    0 < directHolders chains group ↔ ∃ chain ∈ chains, ∃ inner, chain.groups = group :: inner := by
  simp only [directHolders, Multiset.countP_pos, List.head?_eq_some_iff]

def owners (handles : Multiset Chain) (links : Multiset Link) : Multiset Chain :=
  handles + links.map Link.inner

-- The stored counts are the numbers of holders, and every buffer has a single owner that reaches it
-- through no group. The links are ghost state: they exist in no store.
structure Accounted (store : Store) (handles : Multiset Chain) (links : Multiset Link) : Prop where
  distinct : (links.map Link.group).Nodup
  allocated : ∀ link ∈ links, link.group < store.holders.size
  stored : ∀ chain ∈ owners handles links, chain.buffer < store.buffers.size
  linked : ∀ chain ∈ owners handles links, ∀ group inner, chain.groups = group :: inner →
    ⟨group, inner, chain.buffer⟩ ∈ links
  counted : ∀ link ∈ links,
    store.holderCount link.group = directHolders (owners handles links) link.group
  wanted : ∀ link ∈ links, 0 < store.holderCount link.group
  single : ∀ buffer, (owners handles links).count ⟨[], buffer⟩ ≤ 1

variable {store : Store} {handles others : Multiset Chain} {links : Multiset Link}

theorem owners_cons (chain : Chain) (handles : Multiset Chain) (links : Multiset Link) :
    owners (chain ::ₘ handles) links = chain ::ₘ owners handles links := by
  simp [owners]

theorem owners_link (link : Link) (handles : Multiset Chain) (links : Multiset Link) :
    owners handles (link ::ₘ links) = link.inner ::ₘ owners handles links := by
  simp [owners]

theorem mem_owners_of_mem {chain : Chain} (held : chain ∈ handles) : chain ∈ owners handles links :=
  Multiset.mem_add.mpr (.inl held)

theorem inner_mem_owners {link : Link} (known : link ∈ links) :
    link.inner ∈ owners handles links :=
  Multiset.mem_add.mpr (.inr (Multiset.mem_map_of_mem _ known))

namespace Accounted

theorem empty : Accounted .empty 0 0 where
  distinct := by simp
  allocated := by simp
  stored := by simp [owners]
  linked := by simp [owners]
  counted := by simp
  wanted := by simp
  single := by simp [owners]

theorem congr {next : Store} (accounted : Accounted store handles links)
    (groups : store.holders.size ≤ next.holders.size)
    (buffers : store.buffers.size ≤ next.buffers.size)
    (same : ∀ link ∈ links, next.holderCount link.group = store.holderCount link.group) :
    Accounted next handles links where
  distinct := accounted.distinct
  allocated link known := Nat.lt_of_lt_of_le (accounted.allocated link known) groups
  stored chain owner := Nat.lt_of_lt_of_le (accounted.stored chain owner) buffers
  linked := accounted.linked
  counted link known := (same link known).trans (accounted.counted link known)
  wanted link known := same link known ▸ accounted.wanted link known
  single := accounted.single

theorem link_unique (accounted : Accounted store handles links) {link other : Link}
    (known : link ∈ links) (otherKnown : other ∈ links) (same : link.group = other.group) :
    link = other :=
  Multiset.inj_on_of_nodup_map accounted.distinct link known other otherKnown same

theorem linked_of_suffix (accounted : Accounted store handles links) {chain : Chain}
    (owner : chain ∈ owners handles links) {group : GroupId} {inner : List GroupId}
    (within : group :: inner <:+ chain.groups) : ⟨group, inner, chain.buffer⟩ ∈ links := by
  obtain ⟨groups, buffer⟩ := chain
  induction groups with
  | nil => simp at within
  | cons first rest ih =>
    have known := accounted.linked _ owner first rest rfl
    rcases List.suffix_cons_iff.mp within with same | deeper
    · obtain ⟨rfl, rfl⟩ := List.cons.inj same
      exact known
    · exact ih (inner_mem_owners known) deeper

theorem mem_suffix {group : GroupId} {groups : List GroupId} (member : group ∈ groups) :
    ∃ inner, group :: inner <:+ groups := by
  obtain ⟨before, inner, rfl⟩ := List.append_of_mem member
  exact ⟨inner, List.suffix_append _ _⟩

theorem buffer_eq_of_mem (accounted : Accounted store handles links) {chain other : Chain}
    (owner : chain ∈ owners handles links) (otherOwner : other ∈ owners handles links)
    {group : GroupId} (member : group ∈ chain.groups) (otherMember : group ∈ other.groups) :
    chain.buffer = other.buffer := by
  obtain ⟨inner, within⟩ := mem_suffix member
  obtain ⟨otherInner, otherWithin⟩ := mem_suffix otherMember
  have same := accounted.link_unique (accounted.linked_of_suffix owner within)
    (accounted.linked_of_suffix otherOwner otherWithin) rfl
  simp only [Link.mk.injEq, Chain.mk.injEq] at same
  exact same.2.2

theorem suffix_of_mem (accounted : Accounted store handles links) {chain other : Chain}
    (owner : chain ∈ owners handles links) (otherOwner : other ∈ owners handles links)
    {group : GroupId} {inner : List GroupId} (within : group :: inner <:+ chain.groups)
    (otherMember : group ∈ other.groups) : group :: inner <:+ other.groups := by
  obtain ⟨otherInner, otherWithin⟩ := mem_suffix otherMember
  have same := accounted.link_unique (accounted.linked_of_suffix owner within)
    (accounted.linked_of_suffix otherOwner otherWithin) rfl
  simp only [Link.mk.injEq, Chain.mk.injEq] at same
  rwa [same.2.1]

theorem root_mem (accounted : Accounted store handles links) {chain : Chain}
    (owner : chain ∈ owners handles links) (shared : chain.groups ≠ []) :
    ⟨[], chain.buffer⟩ ∈ links.map Link.inner := by
  obtain ⟨before, last, same⟩ := List.eq_nil_or_concat chain.groups |>.resolve_left shared
  have within : [last] <:+ chain.groups := ⟨before, by simpa using same.symm⟩
  exact Multiset.mem_map_of_mem Link.inner (accounted.linked_of_suffix owner within)

-- Outwards from a link the chains get longer, so that a handle is met in the end.
theorem handle_above (accounted : Accounted store handles links) {link : Link}
    (known : link ∈ links) :
    ∃ handle ∈ handles, link.group :: link.inner.groups <:+ handle.groups := by
  let depth (link : Link) := link.inner.groups.length
  have bounded : ∀ link ∈ links, depth link ≤ (links.map depth).sum := fun link known =>
    Multiset.single_le_sum (fun _ _ => Nat.zero_le _) _ (Multiset.mem_map_of_mem depth known)
  induction room : (links.map depth).sum - depth link using Nat.strong_induction_on
    generalizing link with
  | _ left ih =>
    have needed := accounted.wanted link known
    rw [accounted.counted link known] at needed
    obtain ⟨chain, owner, inner, groups⟩ := directHolders_pos.mp needed
    have same := accounted.link_unique (accounted.linked chain owner _ _ groups) known rfl
    have whole : chain.groups = link.group :: link.inner.groups := by rw [groups, ← same]
    rcases Multiset.mem_add.mp owner with handle | inside
    · exact ⟨chain, handle, whole ▸ List.suffix_refl _⟩
    · obtain ⟨outer, outerKnown, rfl⟩ := Multiset.mem_map.mp inside
      have deeper : depth outer = depth link + 1 := by simp [depth, whole]
      have fits := bounded outer outerKnown
      obtain ⟨handle, held, within⟩ := ih _ (by omega) outerKnown rfl
      exact ⟨handle, held, whole ▸ (List.suffix_cons _ _).trans within⟩

theorem unwrap {group : GroupId} {inner : List GroupId} {buffer : BufferId}
    (accounted : Accounted store (⟨group :: inner, buffer⟩ ::ₘ handles) links)
    (last : store.holderCount group = 1) :
    ∃ rest, links = ⟨group, inner, buffer⟩ ::ₘ rest ∧
      Accounted store (⟨inner, buffer⟩ ::ₘ handles) rest := by
  obtain ⟨distinct, allocated, stored, linked, counted, wanted, single⟩ := accounted
  obtain ⟨rest, rfl⟩ := Multiset.exists_cons_of_mem
    (linked ⟨group :: inner, buffer⟩ (by simp [owners]) group inner rfl)
  have split : owners (⟨group :: inner, buffer⟩ ::ₘ handles) (⟨group, inner, buffer⟩ ::ₘ rest) =
      ⟨group :: inner, buffer⟩ ::ₘ owners (⟨inner, buffer⟩ ::ₘ handles) rest := by
    rw [owners_cons, owners_link, owners_cons]
  rw [split] at stored linked single
  simp only [split] at counted
  have distinctRest := Multiset.nodup_cons.mp (Multiset.map_cons Link.group _ rest ▸ distinct)
  have different : ∀ link ∈ rest, link.group ≠ group := fun link known same =>
    distinctRest.1 (Multiset.mem_map.mpr ⟨link, known, same⟩)
  have total := counted _ (Multiset.mem_cons_self _ _)
  have unheld : ¬ 0 < directHolders (owners (⟨inner, buffer⟩ ::ₘ handles) rest) group := by
    simp only [last, directHolders_cons, List.head?_cons, if_true] at total
    omega
  refine ⟨rest, rfl, distinctRest.2, ?_, ?_, ?_, ?_, ?_, ?_⟩
  · exact fun link known => allocated link (Multiset.mem_cons_of_mem known)
  · exact fun chain owner => stored chain (Multiset.mem_cons_of_mem owner)
  · intro chain owner head tail groups
    have known := linked chain (Multiset.mem_cons_of_mem owner) head tail groups
    refine (Multiset.mem_cons.mp known).resolve_left fun same => unheld ?_
    simp only [Link.mk.injEq] at same
    exact directHolders_pos.mpr ⟨chain, owner, tail, same.1 ▸ groups⟩
  · intro link known
    rw [counted link (Multiset.mem_cons_of_mem known), directHolders_cons]
    simp [(different link known).symm]
  · exact fun link known => wanted link (Multiset.mem_cons_of_mem known)
  · exact fun other => (Multiset.count_le_count_cons _ _ _).trans (single other)

theorem buffer_ne_of_sole {chain other : Chain}
    (accounted : Accounted store (chain ::ₘ handles) links)
    (sole : ∀ group ∈ chain.groups, store.holderCount group = 1) (held : other ∈ handles) :
    other.buffer ≠ chain.buffer := by
  obtain ⟨groups, buffer⟩ := chain
  induction groups generalizing links with
  | nil =>
    intro (same : other.buffer = buffer)
    have direct : ⟨[], buffer⟩ ∈ owners handles links := by
      by_cases bare : other.groups = []
      · obtain ⟨otherGroups, otherBuffer⟩ := other
        obtain rfl : otherGroups = [] := bare
        obtain rfl : otherBuffer = buffer := same
        exact mem_owners_of_mem held
      · have owner : other ∈ owners (⟨[], buffer⟩ ::ₘ handles) links :=
          mem_owners_of_mem (Multiset.mem_cons_of_mem held)
        exact Multiset.mem_add.mpr (.inr (same ▸ accounted.root_mem owner bare))
    have single := accounted.single buffer
    rw [owners_cons, Multiset.count_cons_self] at single
    have twice := Multiset.count_pos.mpr direct
    omega
  | cons group inner ih =>
    obtain ⟨rest, rfl, unwrapped⟩ := accounted.unwrap (sole group (by simp))
    exact ih unwrapped fun deeper member => sole deeper (by simp [member])

theorem not_mem_above (accounted : Accounted store handles links) {link : Link}
    (known : link ∈ links) : link.group ∉ link.inner.groups := by
  intro member
  obtain ⟨inner, within⟩ := mem_suffix member
  have same := accounted.link_unique
    (accounted.linked_of_suffix (inner_mem_owners known) within) known rfl
  have longer := within.length_le
  rw [← same] at longer
  simp at longer

theorem directHolders_pos_of_mem {chain other : Chain}
    (accounted : Accounted store (chain ::ₘ handles) links) (held : other ∈ handles)
    {group : GroupId} (member : group ∈ other.groups) :
    0 < directHolders (owners handles links) group := by
  rw [directHolders_pos]
  obtain ⟨before, inner, groups⟩ := List.append_of_mem member
  rcases List.eq_nil_or_concat before with rfl | ⟨start, outer, rfl⟩
  · exact ⟨other, mem_owners_of_mem held, inner, groups⟩
  · have owner : other ∈ owners (chain ::ₘ handles) links :=
      mem_owners_of_mem (Multiset.mem_cons_of_mem held)
    have within : outer :: group :: inner <:+ other.groups := ⟨start, by simpa using groups.symm⟩
    exact ⟨_, inner_mem_owners (accounted.linked_of_suffix owner within), inner, rfl⟩

theorem shared_iff {group : GroupId} {inner : List GroupId} {buffer : BufferId}
    (accounted : Accounted store (⟨group :: inner, buffer⟩ ::ₘ handles) links) :
    1 < store.holderCount group ↔ ∃ other ∈ handles, group ∈ other.groups := by
  have known := accounted.linked ⟨group :: inner, buffer⟩ (by simp [owners]) group inner rfl
  have total : store.holderCount group = directHolders (owners handles links) group + 1 := by
    rw [accounted.counted _ known, owners_cons, directHolders_cons]
    simp
  have more : 1 < store.holderCount group ↔ 0 < directHolders (owners handles links) group := by
    omega
  rw [more]
  constructor
  · intro held
    obtain ⟨entering, owner, after, groups⟩ := directHolders_pos.mp held
    rcases Multiset.mem_add.mp owner with held | inside
    · exact ⟨entering, held, by simp [groups]⟩
    · obtain ⟨outer, outerKnown, rfl⟩ := Multiset.mem_map.mp inside
      obtain ⟨handle, held, within⟩ := accounted.handle_above outerKnown
      rcases Multiset.mem_cons.mp held with rfl | held
      · -- The handle itself would pass the group twice.
        rcases List.suffix_cons_iff.mp within with same | deeper
        · have first : outer.group = group := (List.cons.inj same).1
          exact absurd (by simp [groups, first]) (accounted.not_mem_above outerKnown)
        · have repeated := deeper.subset (a := group) (by simp [groups])
          exact absurd repeated (accounted.not_mem_above known)
      · exact ⟨handle, held, within.subset (by simp [groups])⟩
  · exact fun ⟨other, held, member⟩ => accounted.directHolders_pos_of_mem held member

-- Further down only one direction is left: what shares an outer group adds nothing to the inner ones.
theorem exists_other_of_shared {chain : Chain}
    (accounted : Accounted store (chain ::ₘ handles) links) {group : GroupId}
    (member : group ∈ chain.groups) (shared : 1 < store.holderCount group) :
    ∃ other ∈ handles, group ∈ other.groups := by
  obtain ⟨groups, buffer⟩ := chain
  induction groups generalizing links with
  | nil => simp at member
  | cons first inner ih =>
    rcases List.mem_cons.mp member with rfl | deeper
    · exact accounted.shared_iff.mp shared
    · have known := accounted.linked ⟨first :: inner, buffer⟩ (by simp [owners]) first inner rfl
      by_cases last : store.holderCount first = 1
      · obtain ⟨rest, _, unwrapped⟩ := accounted.unwrap last
        exact ih unwrapped deeper
      · have needed := accounted.wanted _ known
        obtain ⟨other, held, passes⟩ := accounted.shared_iff.mp (by simp at needed; omega)
        have owner : ⟨first :: inner, buffer⟩ ∈ owners (⟨first :: inner, buffer⟩ ::ₘ handles) links :=
          mem_owners_of_mem (Multiset.mem_cons_self _ _)
        have within := accounted.suffix_of_mem owner
          (mem_owners_of_mem (Multiset.mem_cons_of_mem held)) (List.suffix_refl _) passes
        exact ⟨other, held, within.subset (List.mem_cons_of_mem _ deeper)⟩

theorem sole_iff {chain : Chain} (accounted : Accounted store (chain ::ₘ handles) links) :
    (∀ group ∈ chain.groups, store.holderCount group = 1) ↔
      ∀ other ∈ handles, other.buffer ≠ chain.buffer := by
  constructor
  · exact fun sole other held => accounted.buffer_ne_of_sole sole held
  · intro apart group member
    have owner : chain ∈ owners (chain ::ₘ handles) links := by simp [owners]
    obtain ⟨inner, within⟩ := mem_suffix member
    have needed := accounted.wanted _ (accounted.linked_of_suffix owner within)
    by_contra several
    obtain ⟨other, held, passes⟩ := accounted.exists_other_of_shared member
      (by simp only at needed; omega)
    exact apart other held (accounted.buffer_eq_of_mem
      (mem_owners_of_mem (Multiset.mem_cons_of_mem held)) owner passes member)

end Accounted

end ScreenCapture
