import ScreenCapture.Changes
import ScreenCapture.Proofs.Ownership.Writers
import ScreenCapture.Queue

set_option autoImplicit false

namespace ScreenCapture

def held : Option Frame → Multiset Frame
  | none => 0
  | some frame => {frame}

def Queue.frames (queue : Queue) : Multiset Frame := held queue.current + held queue.previous

def ChangeTracker.frames (tracker : ChangeTracker) : Multiset Frame := held tracker.last

def Cursor.frames (cursor : Cursor) : Multiset Frame := held cursor.image

def heldByCursor : Option Cursor → Multiset Frame
  | none => 0
  | some cursor => cursor.frames

theorem releaseSlot_exchange (slot : Option Frame) (store : Store) :
    Exchange store (held slot) (Queue.releaseSlot slot store) 0 := by
  cases slot with
  | none => exact .refl _ _
  | some frame => exact frame.release_exchange store

namespace Frame

variable {store next : Store}

theorem addBuffer_exchange {frame : Frame} (store : Store) (backing : Backing) (bytes : Bytes)
    (own : frame.chain = ⟨[], store.buffers.size⟩) :
    Exchange store 0 (store.addBuffer backing bytes).2 {frame} := by
  intro others owned
  obtain ⟨links, accounted⟩ := owned
  rw [zero_add] at accounted
  refine ⟨owned_single.mpr ⟨links, own ▸ accounted.addBuffer backing bytes⟩, fun other member => ?_⟩
  have within : other.chain ∈ owners (others.map chain) links :=
    mem_owners_of_mem (Multiset.mem_map_of_mem chain member)
  exact store.bytes_addBuffer backing bytes other.buffer (accounted.stored _ within)

theorem createOnHeap_exchange (size : Size) (store : Store) :
    Exchange store 0 (createOnHeap size store).2 (held (createOnHeap size store).1.toOption) := by
  unfold createOnHeap
  split
  · exact .refl _ _
  split
  · exact .refl _ _
  · exact addBuffer_exchange store _ _ rfl

theorem createOnHeap_eq_error {size : Size} {refusal : Refusal}
    (refused : createOnHeap size store = (.error refusal, next)) : next = store := by
  unfold createOnHeap at refused
  split at refused
  next =>
    cases refused
    rfl
  next =>
    split at refused
    next =>
      cases refused
      rfl
    next => cases refused

theorem overBytes_exchange (size : Size) (stride : Nat) (backing : Backing) (bytes : Bytes)
    (store : Store) :
    Exchange store 0 (overBytes size stride backing bytes store).2
      (held (overBytes size stride backing bytes store).1.toOption) := by
  unfold overBytes
  split
  · exact .refl _ _
  · exact addBuffer_exchange store _ _ rfl

theorem requestSegment_exchange {supplier length : Nat} {id : Option Int}
    (requested : store.requestSegment supplier length = .ok (id, next)) :
    Exchange store 0 next 0 := by
  unfold Store.requestSegment at requested
  split at requested
  · obtain ⟨answer, _, requested⟩ := Checked.bind_eq_ok.mp requested
    split at requested
    · cases requested
      exact .refl _ _
    · cases requested
      refine .of_same ?_ ?_ 0 <;> rfl
  · cases requested
    exact .refl _ _

theorem createInSegment_exchange {size : Size} {supplier : Nat} {made : Except Refusal Frame}
    (created : createInSegment size supplier store = .ok (made, next)) :
    Exchange store 0 next (held made.toOption) := by
  unfold createInSegment at created
  split at created
  · cases created
    exact .refl _ _
  · obtain ⟨⟨id, supplied⟩, requested, created⟩ := Checked.bind_eq_ok.mp created
    have begun := requestSegment_exchange requested
    dsimp only at created
    split at created
    · cases created
      exact begun
    next id =>
      have built := overBytes_exchange size size.rowBytes (.segment id)
        (Bytes.zeros size.packedBytes) supplied
      rw [Except.ok.inj created] at built
      exact begun.trans built

theorem create_exchange {source : Source} {size : Size} {made : Except Refusal Frame}
    (created : create source size store = .ok (made, next)) :
    Exchange store 0 next (held made.toOption) := by
  cases source with
  | heap =>
    have built := createOnHeap_exchange size store
    rw [Except.ok.inj created] at built
    exact built
  | segments supplier => exact createInSegment_exchange created

theorem duplicate_exchange {frame : Frame} {made : Except Refusal Frame}
    (copied : frame.duplicate store = .ok (made, next)) :
    Exchange store 0 next (held made.toOption) := by
  have begun := createOnHeap_exchange frame.size store
  unfold duplicate at copied
  split at copied
  next refusal refused created =>
    rw [created] at begun
    cases copied
    exact begun
  next copy reserved created =>
    rw [created] at begun
    have renamed (store : Store) : Exchange store {copy} store {{ copy with info := frame.info }} := by
      exact .of_chain (by rfl) store
    split at copied
    · cases copied
      exact begun.trans (renamed _)
    · obtain ⟨written, edited, copied⟩ := Checked.bind_eq_ok.mp copied
      cases copied
      exact (begun.trans (edit_exchange edited)).trans (renamed _)

theorem crop?_exchange {frame : Frame} {rect : Rect} {cropped : Option Frame}
    (taken : frame.crop? rect store = .ok (cropped, next)) :
    Exchange store {frame} next (held cropped) := by
  unfold crop? at taken
  dsimp only at taken
  split at taken
  · cases taken
    exact frame.release_exchange store
  split at taken
  · cases taken
    exact .refl _ _
  · obtain ⟨offset, _, taken⟩ := Checked.bind_eq_ok.mp taken
    obtain ⟨size, _, taken⟩ := Checked.bind_eq_ok.mp taken
    obtain ⟨info, _, taken⟩ := Checked.bind_eq_ok.mp taken
    cases taken
    exact .of_chain (by rfl) store

end Frame

namespace Queue

theorem frames_advance (queue : Queue) : queue.advance.frames = queue.frames :=
  add_comm _ _

end Queue

namespace ChangeTracker

theorem release_exchange (tracker : ChangeTracker) (store : Store) :
    Exchange store tracker.frames (tracker.release store) 0 :=
  releaseSlot_exchange tracker.last store

end ChangeTracker

namespace Cursor

theorem frames_setHotspot {cursor changed : Cursor} {hotspot : Point}
    (set : cursor.setHotspot hotspot = .ok changed) : changed.frames = cursor.frames := by
  unfold setHotspot at set
  split at set
  · cases set
    rfl
  · split at set
    · cases set
    · cases set
      rfl

end Cursor

end ScreenCapture
