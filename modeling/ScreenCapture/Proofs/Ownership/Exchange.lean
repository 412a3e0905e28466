import Mathlib.Algebra.Order.Group.Multiset
import ScreenCapture.Frame.Transfer
import ScreenCapture.Proofs.Ownership.Turnover

set_option autoImplicit false

namespace ScreenCapture

def Frame.chain (frame : Frame) : Chain := ⟨frame.groups, frame.buffer⟩

def Owned (store : Store) (frames : Multiset Frame) : Prop :=
  ∃ links, Accounted store (frames.map Frame.chain) links

-- The frames `old` become `new` on the way from `store` to `next`, whatever other frames there are,
-- and these keep their bytes.
def Exchange (store : Store) (old : Multiset Frame) (next : Store) (new : Multiset Frame) : Prop :=
  ∀ others, Owned store (old + others) →
    Owned next (new + others) ∧
      ∀ other ∈ others, next.bytes other.buffer = store.bytes other.buffer

theorem Owned.buffer_lt {store : Store} {frames : Multiset Frame} (owned : Owned store frames)
    {frame : Frame} (member : frame ∈ frames) : frame.buffer < store.buffers.size := by
  obtain ⟨links, accounted⟩ := owned
  exact accounted.stored frame.chain (mem_owners_of_mem (Multiset.mem_map_of_mem _ member))

theorem owned_single {store : Store} {frame : Frame} {others : Multiset Frame} :
    Owned store ({frame} + others) ↔
      ∃ links, Accounted store (frame.chain ::ₘ others.map Frame.chain) links := by
  simp [Owned]

theorem owned_pair {store : Store} {frame other : Frame} {others : Multiset Frame} :
    Owned store ({frame, other} + others) ↔
      ∃ links, Accounted store (frame.chain ::ₘ other.chain ::ₘ others.map Frame.chain) links := by
  simp [Owned]

namespace Exchange

variable {store middle next : Store} {old between new : Multiset Frame}

theorem refl (store : Store) (frames : Multiset Frame) : Exchange store frames store frames :=
  fun _ owned => ⟨owned, fun _ _ => rfl⟩

theorem trans (first : Exchange store old middle between)
    (second : Exchange middle between next new) : Exchange store old next new := by
  intro others owned
  obtain ⟨held, same⟩ := first others owned
  obtain ⟨kept, after⟩ := second others held
  exact ⟨kept, fun other member => (after other member).trans (same other member)⟩

theorem beside (exchange : Exchange store old next new) (more : Multiset Frame) :
    Exchange store (old + more) next (new + more) := by
  intro others owned
  rw [add_assoc] at owned ⊢
  obtain ⟨held, same⟩ := exchange (more + others) owned
  exact ⟨held, fun other member => same other (Multiset.mem_add.mpr (.inr member))⟩

theorem behind (exchange : Exchange store old next new) (more : Multiset Frame) :
    Exchange store (more + old) next (more + new) := by
  rw [add_comm more, add_comm more]
  exact exchange.beside more

theorem cast {old' new' : Multiset Frame} (exchange : Exchange store old next new)
    (before : old' = old) (after : new' = new) : Exchange store old' next new' := by
  subst before after
  exact exchange

theorem owned (exchange : Exchange store old next new) (held : Owned store old) :
    Owned next new := by
  have result := (exchange 0 (by simpa using held)).1
  simpa using result

theorem of_chain {frame changed : Frame} (same : changed.chain = frame.chain) (store : Store) :
    Exchange store {frame} store {changed} := by
  intro others owned
  refine ⟨?_, fun _ _ => rfl⟩
  simpa [Owned, same] using owned

theorem of_same (buffers : next.buffers = store.buffers) (holders : next.holders = store.holders)
    (frames : Multiset Frame) : Exchange store frames next frames := by
  intro others owned
  obtain ⟨links, accounted⟩ := owned
  refine ⟨⟨links, accounted.congr (by rw [holders]) (by rw [buffers]) fun _ _ => ?_⟩, fun _ _ => ?_⟩
  · simp only [Store.holderCount, holders]
  · simp only [Store.bytes, buffers]

end Exchange

namespace Frame

theorem release_exchange (frame : Frame) (store : Store) :
    Exchange store {frame} (frame.release store) 0 := by
  intro others owned
  obtain ⟨links, accounted⟩ := owned_single.mp owned
  obtain ⟨rest, lighter, same⟩ := accounted.release
  refine ⟨⟨rest, by rw [zero_add]; exact lighter⟩, fun other member => ?_⟩
  exact same other.chain (Multiset.mem_map_of_mem _ member)

theorem share_exchange (frame : Frame) (store : Store) :
    Exchange store {frame} (frame.share store).2 {(frame.share store).1, (frame.share store).1} := by
  intro others owned
  obtain ⟨links, accounted⟩ := owned_single.mp owned
  refine ⟨?_, fun other _ => ?_⟩
  · rw [owned_pair]
    unfold share
    split
    next group inner _ groups =>
      rw [chain, groups] at accounted ⊢
      exact ⟨links, accounted.join⟩
    next => exact ⟨_, accounted.wrap⟩
  · unfold share
    split <;> rfl

theorem edit_eq_ok {frame : Frame} {change : Plane → Checked Bytes} {store next : Store}
    (edited : frame.edit change store = .ok next) :
    frame.isWritable store = true ∧ ∃ bytes, next = store.setBytes frame.buffer bytes := by
  unfold edit at edited
  split at edited
  next writable =>
    refine ⟨writable, ?_⟩
    unfold Store.changeBytes at edited
    obtain ⟨bytes, _, written⟩ := Checked.bind_eq_ok.mp edited
    refine ⟨bytes, ?_⟩
    cases written
    exact Store.setBytes_setBytes ..
  next => cases edited

theorem isWritable_iff {frame : Frame} {store : Store} :
    frame.isWritable store = true ↔ ∀ group ∈ frame.chain.groups, store.holderCount group = 1 := by
  simp [isWritable, chain]

theorem edit_exchange {frame : Frame} {change : Plane → Checked Bytes} {store next : Store}
    (edited : frame.edit change store = .ok next) : Exchange store {frame} next {frame} := by
  obtain ⟨writable, bytes, rfl⟩ := edit_eq_ok edited
  intro others owned
  obtain ⟨links, accounted⟩ := owned_single.mp owned
  refine ⟨owned_single.mpr ⟨links, accounted.setBytes frame.buffer bytes⟩, fun other member => ?_⟩
  have apart : other.buffer ≠ frame.buffer :=
    accounted.buffer_ne_of_sole (isWritable_iff.mp writable) (Multiset.mem_map_of_mem chain member)
  rw [Store.bytes_setBytes, if_neg fun clash => apart clash.1.symm]

end Frame

end ScreenCapture
