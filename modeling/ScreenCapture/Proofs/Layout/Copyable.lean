import ScreenCapture.Proofs.Cursor.Image
import ScreenCapture.Proofs.Layout.Runs

set_option autoImplicit false

namespace ScreenCapture

def Copyable (frames : Multiset Frame) : Prop :=
  ∀ frame ∈ frames, frame.size.packedBytes ≤ allocationLimit

def Demands.typed : Demands where
  size size := size.Bounded
  bytes bytes := bytes.size ≤ allocationLimit
  change change := ∀ plane bytes, change plane = .ok bytes → bytes.size = plane.bytes.size
  bitmaps bitmaps := bitmaps.Typed

namespace Copyable

variable {frames more : Multiset Frame} {frame : Frame}

theorem add : Copyable (frames + more) ↔ Copyable frames ∧ Copyable more := by
  simp only [Copyable, Multiset.mem_add, or_imp, forall_and]

theorem zero : Copyable 0 := fun _ member => absurd member (Multiset.notMem_zero _)

theorem single : Copyable {frame} ↔ frame.size.packedBytes ≤ allocationLimit := by
  simp only [Copyable, Multiset.mem_singleton, forall_eq]

theorem slot {slot : Option Frame} :
    Copyable (held slot) ↔ ∀ frame, slot = some frame → frame.size.packedBytes ≤ allocationLimit := by
  cases slot with
  | none => simp [held, zero]
  | some frame => simp [held, single]

theorem slot_toOption {made : Except Refusal Frame} : Copyable (held made.toOption) ↔
    ∀ frame, made = .ok frame → frame.size.packedBytes ≤ allocationLimit := by
  cases made with
  | error refusal => simp [Except.toOption, held, zero]
  | ok frame => simp [Except.toOption, held, single]

end Copyable

namespace Frame

variable {frame created : Frame} {store next : Store} {size : Size}

theorem overBytes_packedBytes_le {stride : Nat} {backing : Backing} {bytes : Bytes}
    (room : bytes.size ≤ allocationLimit)
    (made : (overBytes size stride backing bytes store).1 = .ok created) :
    created.size.packedBytes ≤ allocationLimit := by
  unfold overBytes at made
  split at made
  next => cases made
  next allowed =>
    cases made
    have reached : bytes.size < addressLimit := Nat.lt_of_le_of_lt room (by decide)
    obtain ⟨_, rows, ends⟩ := (checkLayout_eq_ok_iff reached).mp allowed
    exact ((Nat.mul_le_mul_right _ rows).trans ends).trans room

theorem create_packedBytes_le {source : Source}
    (made : create source size store = .ok (.ok created, next)) :
    created.size.packedBytes ≤ allocationLimit := by
  rw [create_eq_ok made]
  cases source with
  | heap => exact (createOnHeap_eq_ok (Except.ok.inj made)).2.1
  | segments supplier =>
    rw [create, createInSegment] at made
    split at made
    next => cases made
    next =>
      obtain ⟨⟨id, supplied⟩, requested, made⟩ := Checked.bind_eq_ok.mp made
      dsimp only at made
      split at made
      next => cases made
      next => exact requestSegment_length requested

theorem duplicate_size {copy : Frame} (copied : frame.duplicate store = .ok (.ok copy, next)) :
    copy.size = frame.size ∧ copy.size.packedBytes ≤ allocationLimit := by
  unfold duplicate at copied
  split at copied
  next => cases copied
  next made =>
    obtain ⟨_, room, rfl, _⟩ := createOnHeap_eq_ok made
    split at copied
    next =>
      cases copied
      exact ⟨rfl, room⟩
    next =>
      obtain ⟨_, _, copied⟩ := Checked.bind_eq_ok.mp copied
      cases copied
      exact ⟨rfl, room⟩

theorem crop?_packedBytes_le {rect : Rect} {part : Frame}
    (taken : frame.crop? rect store = .ok (some part, next)) :
    part.size.packedBytes ≤ frame.size.packedBytes := by
  obtain ⟨_, hollow, _⟩ | ⟨solid, _, ⟨_, whole⟩ | ⟨_, found, isPart⟩⟩ := crop?_cases taken
  next => cases hollow
  next =>
    cases whole
    exact Nat.le_refl _
  next =>
    cases found
    have inside := bounds_encloses_iff.mp (Region.encloses_meet frame.bounds solid)
    rw [isPart.size]
    exact Size.packedBytes_le (by dsimp only; omega) (by dsimp only; omega)

end Frame

namespace Handling

variable {store next : Store} {old new : Multiset Frame}

theorem copyable (handling : Handling .typed store old next new) (room : Copyable old) :
    Copyable new := by
  induction handling with
  | refl => exact room
  | trans _ _ first second => exact second (first room)
  | beside _ more ih => exact Copyable.add.mpr ((Copyable.add.mp room).imp_left ih)
  | supply | release => exact .zero
  | create _ created =>
    refine Copyable.slot_toOption.mpr fun frame made => ?_
    exact Frame.create_packedBytes_le (made ▸ created)
  | overBytes _ filled =>
    exact Copyable.slot_toOption.mpr fun frame made => Frame.overBytes_packedBytes_le filled made
  | draw _ _ created => exact Copyable.single.mpr ((Frame.createOnHeap_eq_ok created).2.2.1 ▸
      (Frame.createOnHeap_eq_ok created).2.1)
  | describe | write => exact Copyable.single.mpr (Copyable.single.mp room :)
  | share frame store =>
    have kept : Copyable {(frame.share store).1} :=
      Copyable.single.mpr (frame.share_size store ▸ Copyable.single.mp room)
    exact Copyable.add.mpr ⟨kept, kept⟩
  | duplicate copied =>
    refine Copyable.add.mpr ⟨room, Copyable.slot_toOption.mpr fun copy made => ?_⟩
    exact (Frame.duplicate_size (made ▸ copied)).2
  | crop taken =>
    refine Copyable.slot.mpr fun part found => ?_
    exact (Frame.crop?_packedBytes_le (found ▸ taken)).trans (Copyable.single.mp room)

end Handling

theorem Demands.typed_layOut : Demands.typed.LayOut where
  size _ := id
  bytes _ room := Nat.lt_of_le_of_lt room (by decide)
  change _ := id
  draw bitmaps image store reserved next typed checked created drawing := by
    obtain ⟨_, _, shade, made, _, displays⟩ := CursorBitmaps.createOnHeap_displays checked typed
    cases made.symm.trans created
    obtain ⟨_, drawn, displayed⟩ := CursorBitmaps.draw_displays
      (CursorBitmaps.maskRoom checked typed) displays (CursorBitmaps.colorRoom checked typed)
    cases drawn.symm.trans drawing
    exact displayed.layout

namespace Holdings

structure Copying (holdings : Holdings) : Prop where
  owned : Owned holdings.store holdings.live
  laid : LaidOut holdings.store holdings.live
  room : Copyable holdings.live

theorem start_copying : start.Copying := ⟨start_owned, .zero, .zero⟩

theorem Copying.step {holdings next : Holdings} {action : Action} (copying : holdings.Copying)
    (typed : action.Meets .typed) (stepped : holdings.step action = .ok next) : next.Copying := by
  have handling := step_handling typed stepped
  obtain ⟨owned, laid⟩ := (handling.upkeep Demands.typed_layOut).settled copying.owned copying.laid
  exact ⟨owned, laid, handling.copyable copying.room⟩

end Holdings

end ScreenCapture
