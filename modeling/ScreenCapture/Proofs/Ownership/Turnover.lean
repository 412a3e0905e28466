import ScreenCapture.Proofs.Ownership.Accounting

set_option autoImplicit false

namespace ScreenCapture.Accounted

variable {store : Store} {handles : Multiset Chain} {links : Multiset Link}

theorem setBytes (accounted : Accounted store handles links) (id : BufferId) (bytes : Bytes) :
    Accounted (store.setBytes id bytes) handles links :=
  accounted.congr (by simp) (by simp) fun _ _ => by simp

theorem addBuffer (accounted : Accounted store handles links) (backing : Backing) (bytes : Bytes) :
    Accounted (store.addBuffer backing bytes).2 (⟨[], store.buffers.size⟩ ::ₘ handles) links := by
  have bigger : (store.addBuffer backing bytes).2.buffers.size = store.buffers.size + 1 := by
    simp [Store.addBuffer]
  constructor
  · exact accounted.distinct
  · exact accounted.allocated
  · intro chain owner
    rw [bigger]
    rcases Multiset.mem_cons.mp (owners_cons .. ▸ owner) with rfl | owner
    · exact Nat.lt_succ_self _
    · exact Nat.lt_succ_of_lt (accounted.stored chain owner)
  · intro chain owner group inner groups
    rcases Multiset.mem_cons.mp (owners_cons .. ▸ owner) with rfl | owner
    · cases groups
    · exact accounted.linked chain owner group inner groups
  · intro link known
    rw [owners_cons, directHolders_cons]
    exact accounted.counted link known
  · exact accounted.wanted
  · intro buffer
    rw [owners_cons, Multiset.count_cons]
    split
    · -- The new buffer has no owner yet.
      next same =>
      have fresh : ⟨[], buffer⟩ ∉ owners handles links := fun owner => by
        have bound := accounted.stored _ owner
        simp only [Chain.mk.injEq, true_and] at same
        exact absurd same (Nat.ne_of_lt bound)
      rw [Multiset.count_eq_zero_of_notMem fresh]
    · exact accounted.single buffer

theorem join {group : GroupId} {inner : List GroupId} {buffer : BufferId}
    (accounted : Accounted store (⟨group :: inner, buffer⟩ ::ₘ handles) links) :
    Accounted (store.join group)
      (⟨group :: inner, buffer⟩ ::ₘ ⟨group :: inner, buffer⟩ ::ₘ handles) links := by
  have known := accounted.linked ⟨group :: inner, buffer⟩ (by simp [owners]) group inner rfl
  have counts (link : Link) : (store.join group).holderCount link.group =
      store.holderCount link.group + if group = link.group then 1 else 0 :=
    store.holderCount_join group link.group (accounted.allocated _ known)
  have old {chain : Chain} (owner : chain ∈
      owners (⟨group :: inner, buffer⟩ ::ₘ ⟨group :: inner, buffer⟩ ::ₘ handles) links) :
      chain ∈ owners (⟨group :: inner, buffer⟩ ::ₘ handles) links := by
    simp only [owners_cons, Multiset.mem_cons] at owner ⊢
    tauto
  constructor
  · exact accounted.distinct
  · intro link linkKnown
    simpa [Store.join] using accounted.allocated link linkKnown
  · exact fun chain owner => accounted.stored chain (old owner)
  · exact fun chain owner => accounted.linked chain (old owner)
  · intro link linkKnown
    rw [counts, accounted.counted link linkKnown, owners_cons _ (_ ::ₘ handles),
      directHolders_cons]
    simp only [List.head?_cons, Option.some.injEq]
  · intro link linkKnown
    rw [counts]
    exact Nat.add_pos_left (accounted.wanted link linkKnown) _
  · intro other
    rw [owners_cons, Multiset.count_cons_of_ne (by simp)]
    exact accounted.single other

theorem leave {group : GroupId} {inner : List GroupId} {buffer : BufferId}
    (accounted : Accounted store (⟨group :: inner, buffer⟩ ::ₘ handles) links)
    (several : 1 < store.holderCount group) : Accounted (store.leave group) handles links := by
  obtain ⟨distinct, allocated, stored, linked, counted, wanted, single⟩ := accounted
  rw [owners_cons] at stored linked single
  simp only [owners_cons] at counted
  constructor
  · exact distinct
  · intro link known
    simpa [Store.leave] using allocated link known
  · intro chain owner
    simpa [Store.leave] using stored chain (Multiset.mem_cons_of_mem owner)
  · exact fun chain owner => linked chain (Multiset.mem_cons_of_mem owner)
  · intro link known
    rw [Store.holderCount_leave, counted link known, directHolders_cons]
    simp only [List.head?_cons, Option.some.injEq, Nat.add_sub_cancel]
  · intro link known
    rw [Store.holderCount_leave]
    have positive := wanted link known
    split
    · next same =>
      subst same
      omega
    · omega
  · exact fun other => (Multiset.count_le_count_cons _ _ _).trans (single other)

theorem wrap {chain : Chain} (accounted : Accounted store (chain ::ₘ handles) links) :
    Accounted (store.addGroup 2).2
      (⟨store.holders.size :: chain.groups, chain.buffer⟩ ::ₘ
        ⟨store.holders.size :: chain.groups, chain.buffer⟩ ::ₘ handles)
      (⟨store.holders.size, chain⟩ ::ₘ links) := by
  let outer : Chain := ⟨store.holders.size :: chain.groups, chain.buffer⟩
  have split : owners (outer ::ₘ outer ::ₘ handles) (⟨store.holders.size, chain⟩ ::ₘ links) =
      outer ::ₘ outer ::ₘ owners (chain ::ₘ handles) links := by
    rw [owners_cons, owners_cons, owners_link, owners_cons]
  have older : ∀ link ∈ links, link.group ≠ store.holders.size :=
    fun link known => Nat.ne_of_lt (accounted.allocated link known)
  have unheld : ¬ 0 < directHolders (owners (chain ::ₘ handles) links) store.holders.size := by
    intro held
    obtain ⟨owner, member, inner, groups⟩ := directHolders_pos.mp held
    exact older _ (accounted.linked owner member _ inner groups) rfl
  obtain ⟨distinct, allocated, stored, linked, counted, wanted, single⟩ := accounted
  constructor
  · rw [Multiset.map_cons, Multiset.nodup_cons]
    refine ⟨fun member => ?_, distinct⟩
    obtain ⟨link, known, same⟩ := Multiset.mem_map.mp member
    exact older link known same
  · intro link known
    simp only [Store.addGroup, Array.size_push]
    rcases Multiset.mem_cons.mp known with rfl | known
    · exact Nat.lt_succ_self _
    · exact Nat.lt_succ_of_lt (allocated link known)
  · rw [split]
    intro owner member
    have within : chain.buffer < store.buffers.size := stored chain (by simp [owners])
    simp only [Multiset.mem_cons] at member
    rcases member with rfl | rfl | member
    · exact within
    · exact within
    · exact stored owner member
  · rw [split]
    intro owner member group inner groups
    simp only [Multiset.mem_cons] at member
    have fromOuter (same : owner = outer) :
        ⟨group, inner, owner.buffer⟩ ∈ (⟨store.holders.size, chain⟩ : Link) ::ₘ links := by
      subst same
      obtain ⟨rfl, rfl⟩ := List.cons.inj groups
      exact Multiset.mem_cons_self _ _
    rcases member with same | same | member
    · exact fromOuter same
    · exact fromOuter same
    · exact Multiset.mem_cons_of_mem (linked owner member group inner groups)
  · intro link known
    rw [split, Store.holderCount_addGroup, directHolders_cons, directHolders_cons]
    rcases Multiset.mem_cons.mp known with rfl | known
    · simp [outer, Nat.eq_zero_of_not_pos unheld]
    · simp [outer, older link known, (older link known).symm, counted link known]
  · intro link known
    rw [Store.holderCount_addGroup]
    rcases Multiset.mem_cons.mp known with rfl | known
    · simp
    · simpa [older link known] using wanted link known
  · intro other
    rw [split, Multiset.count_cons_of_ne (by simp [outer]), Multiset.count_cons_of_ne (by simp [outer])]
    exact single other

theorem forgetBare {buffer : BufferId} (accounted : Accounted store (⟨[], buffer⟩ ::ₘ handles) links) :
    Accounted store handles links := by
  obtain ⟨distinct, allocated, stored, linked, counted, wanted, single⟩ := accounted
  rw [owners_cons] at stored linked single
  simp only [owners_cons] at counted
  refine ⟨distinct, allocated, ?_, ?_, ?_, wanted, ?_⟩
  · exact fun chain owner => stored chain (Multiset.mem_cons_of_mem owner)
  · exact fun chain owner => linked chain (Multiset.mem_cons_of_mem owner)
  · intro link known
    rw [counted link known, directHolders_cons]
    rfl
  · exact fun other => (Multiset.count_le_count_cons _ _ _).trans (single other)

theorem release {chain : Chain} (accounted : Accounted store (chain ::ₘ handles) links) :
    ∃ rest, Accounted (store.release chain.buffer chain.groups) handles rest ∧
      ∀ other ∈ handles,
        (store.release chain.buffer chain.groups).bytes other.buffer = store.bytes other.buffer := by
  obtain ⟨groups, buffer⟩ := chain
  induction groups generalizing store links with
  | nil =>
    refine ⟨links, accounted.forgetBare.setBytes buffer #[], fun other held => ?_⟩
    have apart := accounted.buffer_ne_of_sole (by simp) held
    rw [Store.release, Store.bytes_setBytes, if_neg (fun clash => apart clash.1.symm)]
  | cons group inner ih =>
    have known := accounted.linked ⟨group :: inner, buffer⟩ (by simp [owners]) group inner rfl
    have needed : 0 < store.holderCount group := accounted.wanted _ known
    have left := store.holderCount_leave group group
    simp only [Store.release]
    split
    next gone =>
      have last : store.holderCount group = 1 := by
        simp only [if_true] at left
        omega
      obtain ⟨rest, rfl, unwrapped⟩ := accounted.unwrap last
      have different : ∀ link ∈ rest, group ≠ link.group := by
        have distinct := accounted.distinct
        rw [Multiset.map_cons, Multiset.nodup_cons] at distinct
        exact fun link known same => distinct.1 (Multiset.mem_map.mpr ⟨link, known, same.symm⟩)
      have lighter : Accounted (store.leave group) (⟨inner, buffer⟩ ::ₘ handles) rest :=
        unwrapped.congr (by simp [Store.leave]) (by simp [Store.leave]) fun link known => by
          simp [Store.holderCount_leave, different link known]
      exact ih lighter
    next stays =>
      refine ⟨links, accounted.leave ?_, fun other held => rfl⟩
      simp only [if_true] at left
      omega

end ScreenCapture.Accounted
