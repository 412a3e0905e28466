import ScreenCapture.Proofs.Ownership.Handling
import ScreenCapture.Proofs.Pixels.Crop
import ScreenCapture.Proofs.Pixels.Duplicate

set_option autoImplicit false

namespace ScreenCapture

def LaidOut (store : Store) (frames : Multiset Frame) : Prop :=
  ∀ frame ∈ frames, frame.Layout store

def Upkeep (store : Store) (old : Multiset Frame) (next : Store) (new : Multiset Frame) : Prop :=
  ∀ others, Owned store (old + others) → LaidOut store (old + others) →
    Owned next (new + others) ∧ LaidOut next (new + others) ∧
      ∀ other ∈ others, next.bytes other.buffer = store.bytes other.buffer

namespace LaidOut

variable {store : Store} {frames more : Multiset Frame} {frame : Frame}

theorem add : LaidOut store (frames + more) ↔ LaidOut store frames ∧ LaidOut store more := by
  simp only [LaidOut, Multiset.mem_add, or_imp, forall_and]

theorem zero : LaidOut store 0 := fun _ member => absurd member (Multiset.notMem_zero _)

theorem single : LaidOut store {frame} ↔ frame.Layout store := by
  simp only [LaidOut, Multiset.mem_singleton, forall_eq]

theorem pair {other : Frame} :
    LaidOut store {frame, other} ↔ frame.Layout store ∧ other.Layout store := by
  simp [LaidOut]

theorem slot {slot : Option Frame} :
    LaidOut store (held slot) ↔ ∀ frame, slot = some frame → frame.Layout store := by
  cases slot with
  | none => simp [held, zero]
  | some frame => simp [held, single]

end LaidOut

namespace Upkeep

variable {store middle next : Store} {old between new : Multiset Frame}

theorem refl (store : Store) (frames : Multiset Frame) : Upkeep store frames store frames :=
  fun _ owned laid => ⟨owned, laid, fun _ _ => rfl⟩

theorem trans (first : Upkeep store old middle between) (second : Upkeep middle between next new) :
    Upkeep store old next new := by
  intro others owned laid
  obtain ⟨held, spread, same⟩ := first others owned laid
  obtain ⟨kept, settled, after⟩ := second others held spread
  exact ⟨kept, settled, fun other member => (after other member).trans (same other member)⟩

theorem beside (upkeep : Upkeep store old next new) (more : Multiset Frame) :
    Upkeep store (old + more) next (new + more) := by
  intro others owned laid
  rw [add_assoc] at owned laid ⊢
  obtain ⟨held, settled, same⟩ := upkeep (more + others) owned laid
  exact ⟨held, settled, fun other member => same other (Multiset.mem_add.mpr (.inr member))⟩

theorem behind (upkeep : Upkeep store old next new) (more : Multiset Frame) :
    Upkeep store (more + old) next (more + new) := by
  rw [add_comm more, add_comm more]
  exact upkeep.beside more

theorem cast {old' new' : Multiset Frame} (upkeep : Upkeep store old next new)
    (before : old' = old) (after : new' = new) : Upkeep store old' next new' := by
  subst before after
  exact upkeep

theorem of_exchange (exchange : Exchange store old next new)
    (own : LaidOut store old → LaidOut next new) : Upkeep store old next new := by
  intro others owned laid
  obtain ⟨held, same⟩ := exchange others owned
  obtain ⟨before, rest⟩ := LaidOut.add.mp laid
  refine ⟨held, LaidOut.add.mpr ⟨own before, fun other member => ?_⟩, same⟩
  exact (rest other member).congr (congrArg Array.size (same other member))

theorem of_laidOut (upkeep : LaidOut store old → Upkeep store old next new) :
    Upkeep store old next new :=
  fun others owned laid => upkeep (LaidOut.add.mp laid).1 others owned laid

theorem settled (upkeep : Upkeep store old next new) (owned : Owned store old)
    (laid : LaidOut store old) : Owned next new ∧ LaidOut next new := by
  have result := upkeep 0 (by rwa [add_zero]) (by rwa [add_zero])
  rw [add_zero] at result
  exact ⟨result.1, result.2.1⟩

end Upkeep

namespace Frame

variable {store next : Store}

theorem release_upkeep (frame : Frame) (store : Store) :
    Upkeep store {frame} (frame.release store) 0 :=
  .of_exchange (frame.release_exchange store) fun _ => .zero

theorem withInfo_upkeep (frame : Frame) (info : FrameInfo) (store : Store) :
    Upkeep store {frame} store {{ frame with info }} := by
  refine .of_exchange (.of_chain (by rfl) store) fun laid => ?_
  exact LaidOut.single.mpr ((LaidOut.single.mp laid).withInfo info)

theorem share_layout {frame : Frame} (layout : frame.Layout store) :
    (frame.share store).1.Layout (frame.share store).2 := by
  unfold share
  split
  next => exact layout.congr rfl
  next =>
    exact ⟨layout.width, layout.height, layout.rows, layout.begins, layout.lines, layout.padded,
      layout.addressable⟩

theorem share_upkeep (frame : Frame) (store : Store) :
    Upkeep store {frame} (frame.share store).2 {(frame.share store).1, (frame.share store).1} := by
  refine .of_exchange (frame.share_exchange store) fun laid => ?_
  have layout := share_layout (LaidOut.single.mp laid)
  exact LaidOut.pair.mpr ⟨layout, layout⟩

theorem edit_upkeep {frame : Frame} {change : Plane → Checked Bytes}
    (length : ∀ plane bytes, change plane = .ok bytes → bytes.size = plane.bytes.size)
    (edited : frame.edit change store = .ok next) : Upkeep store {frame} next {frame} := by
  refine .of_exchange (edit_exchange edited) fun laid => ?_
  obtain ⟨_, bytes, changed, rfl⟩ := edit_eq_ok_iff.mp edited
  exact LaidOut.single.mpr ((LaidOut.single.mp laid).setBytes (length _ _ changed))

theorem createOnHeap_upkeep {size : Size} (bounded : size.Bounded) (store : Store) :
    Upkeep store 0 (createOnHeap size store).2 (held (createOnHeap size store).1.toOption) := by
  refine .of_exchange (createOnHeap_exchange size store) fun _ => LaidOut.slot.mpr ?_
  intro frame found
  generalize made : createOnHeap size store = result at found ⊢
  obtain ⟨_ | created, reserved⟩ := result
  next => cases found
  next =>
    cases found
    exact createOnHeap_layout bounded made

theorem overBytes_upkeep {size : Size} {bytes : Bytes} (bounded : size.Bounded)
    (reached : bytes.size < addressLimit) (stride : Nat) (backing : Backing) (store : Store) :
    Upkeep store 0 (overBytes size stride backing bytes store).2
      (held (overBytes size stride backing bytes store).1.toOption) := by
  refine .of_exchange (overBytes_exchange size stride backing bytes store) fun _ => LaidOut.slot.mpr ?_
  intro frame found
  generalize made : overBytes size stride backing bytes store = result at found ⊢
  obtain ⟨_ | created, reserved⟩ := result
  next => cases found
  next =>
    cases found
    exact overBytes_layout bounded reached made

theorem requestSegment_length {supplier length : Nat} {id : Int}
    (requested : store.requestSegment supplier length = .ok (some id, next)) :
    length ≤ allocationLimit := by
  unfold Store.requestSegment at requested
  split at requested
  next =>
    obtain ⟨answer, supplied, requested⟩ := Checked.bind_eq_ok.mp requested
    split at requested
    next => cases requested
    next =>
      unfold Supplier.request? at supplied
      split at supplied
      next => cases supplied
      next =>
        split at supplied
        next => cases supplied
        next within => omega
  next => cases requested

theorem createInSegment_upkeep {size : Size} {supplier : Nat} {made : Except Refusal Frame}
    (bounded : size.Bounded) (created : createInSegment size supplier store = .ok (made, next)) :
    Upkeep store 0 next (held made.toOption) := by
  refine .of_exchange (createInSegment_exchange created) fun _ => LaidOut.slot.mpr ?_
  intro frame found
  unfold createInSegment at created
  split at created
  next =>
    cases created
    cases found
  next =>
    obtain ⟨⟨id, supplied⟩, requested, created⟩ := Checked.bind_eq_ok.mp created
    dsimp only at created
    split at created
    next =>
      cases created
      cases found
    next =>
      have short := requestSegment_length requested
      cases made with
      | error refusal => cases found
      | ok frame =>
        cases found
        refine overBytes_layout bounded ?_ (Except.ok.inj created)
        unfold allocationLimit at short
        simp only [Bytes.zeros, Array.size_replicate, addressLimit]
        omega

theorem create_upkeep {source : Source} {size : Size} {made : Except Refusal Frame}
    (bounded : size.Bounded) (created : create source size store = .ok (made, next)) :
    Upkeep store 0 next (held made.toOption) := by
  cases source with
  | heap =>
    have built := createOnHeap_upkeep bounded store
    rw [Except.ok.inj created] at built
    exact built
  | segments supplier => exact createInSegment_upkeep bounded created

theorem duplicate_upkeep {frame : Frame} {made : Except Refusal Frame}
    (copied : frame.duplicate store = .ok (made, next)) :
    Upkeep store {frame} next ({frame} + held made.toOption) := by
  refine .of_laidOut fun laid => ?_
  have layout := LaidOut.single.mp laid
  have added : Upkeep store 0 next (held made.toOption) := by
    refine .of_exchange (duplicate_exchange copied) fun _ => LaidOut.slot.mpr fun copy found => ?_
    obtain ⟨result, reached, equal, own⟩ := layout.duplicate_ok
    cases copied.symm.trans equal
    cases made with
    | error refusal => cases found
    | ok made =>
      cases found
      exact own _ rfl
  exact (added.behind {frame}).cast (add_zero _).symm rfl

theorem crop?_upkeep {frame : Frame} {rect : Rect} {cropped : Option Frame}
    (taken : frame.crop? rect store = .ok (cropped, next)) :
    Upkeep store {frame} next (held cropped) := by
  refine .of_exchange (crop?_exchange taken) fun laid => LaidOut.slot.mpr fun part found => ?_
  exact crop?_layout (LaidOut.single.mp laid) (found ▸ taken)

end Frame

structure Demands.LayOut (demands : Demands) : Prop where
  size : ∀ size, demands.size size → size.Bounded
  bytes : ∀ bytes, demands.bytes bytes → bytes.size < addressLimit
  change : ∀ change, demands.change change →
    ∀ plane bytes, change plane = .ok bytes → bytes.size = plane.bytes.size
  draw : ∀ bitmaps image store reserved next, demands.bitmaps bitmaps → bitmaps.check = .ok () →
    Frame.createOnHeap bitmaps.imageSize store = (.ok image, reserved) →
      bitmaps.draw image reserved = .ok next → image.Layout next

def Demands.frames : Demands where
  size size := size.Bounded
  bytes bytes := bytes.size < addressLimit
  change change := ∀ plane bytes, change plane = .ok bytes → bytes.size = plane.bytes.size
  bitmaps _ := False

theorem Demands.frames_layOut : Demands.frames.LayOut where
  size _ := id
  bytes _ := id
  change _ := id
  draw _ _ _ _ _ never := never.elim

theorem Handling.upkeep {demands : Demands} {store next : Store} {old new : Multiset Frame}
    (layOut : demands.LayOut) (handling : Handling demands store old next new) :
    Upkeep store old next new := by
  induction handling with
  | refl => exact .refl _ _
  | trans _ _ first second => exact first.trans second
  | beside _ more ih => exact ih.beside more
  | supply limit store =>
    have exchange := (Handling.supply limit store : Handling demands ..).exchange
    exact .of_exchange exchange fun _ => .zero
  | create sized created => exact Frame.create_upkeep (layOut.size _ sized) created
  | overBytes sized filled stride backing store =>
    exact Frame.overBytes_upkeep (layOut.size _ sized) (layOut.bytes _ filled) stride backing store
  | draw typed checked created drawing =>
    have layout := layOut.draw _ _ _ _ _ typed checked created drawing
    have exchange := (Handling.draw typed checked created drawing).exchange
    exact .of_exchange exchange fun _ => LaidOut.single.mpr layout
  | describe frame info store => exact frame.withInfo_upkeep info store
  | write keeps edited => exact Frame.edit_upkeep (layOut.change _ keeps) edited
  | share frame store => exact frame.share_upkeep store
  | duplicate copied => exact Frame.duplicate_upkeep copied
  | crop taken => exact Frame.crop?_upkeep taken
  | release frame store => exact frame.release_upkeep store

end ScreenCapture
