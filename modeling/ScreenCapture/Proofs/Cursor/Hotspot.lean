import ScreenCapture.Proofs.Layout.Copies
import ScreenCapture.Proofs.Layout.Copyable

set_option autoImplicit false

namespace ScreenCapture

namespace Cursor

def Settled (cursor : Cursor) : Prop :=
  ∀ image, cursor.image = some image →
    (0 ≤ cursor.hotspot.x ∧ cursor.hotspot.x < image.size.width) ∧
      0 ≤ cursor.hotspot.y ∧ cursor.hotspot.y < image.size.height

structure IsTwin (twin : Cursor) (next : Store) (cursor : Cursor) (store : Store) : Prop where
  hotspot : twin.hotspot = cursor.hotspot
  bare : cursor.image = .none → twin.image = .none
  image : ∀ image, cursor.image = some image →
    ∃ copy, twin.image = some copy ∧ copy.IsCopyOf next image store

variable {cursor made : Cursor} {image : Frame} {hotspot : Point} {store next : Store}

theorem checkHotspot_cases (image : Frame) (hotspot : Point) :
    (checkHotspot image hotspot = .ok () ∧ Settled ⟨some image, hotspot⟩) ∨
      ∃ refusal, checkHotspot image hotspot = .error refusal ∧ ¬Settled ⟨some image, hotspot⟩ := by
  cases checked : checkHotspot image hotspot with
  | ok _ =>
    refine .inl ⟨rfl, fun other same => ?_⟩
    cases same
    exact checkHotspot_eq_ok_iff.mp checked
  | error refusal =>
    refine .inr ⟨refusal, rfl, fun settled => ?_⟩
    cases checked.symm.trans (checkHotspot_eq_ok_iff.mpr (settled image rfl))

theorem ofImage_eq_ok_iff : (ofImage image hotspot store).1 = .ok made ↔
    made = ⟨some image, hotspot⟩ ∧ made.Settled := by
  obtain ⟨inside, settled⟩ | ⟨refusal, refused, unsettled⟩ := checkHotspot_cases image hotspot
  next =>
    rw [ofImage, inside, Except.ok.injEq, eq_comm]
    exact ⟨fun same => ⟨same, same ▸ settled⟩, And.left⟩
  next =>
    rw [ofImage, refused]
    exact iff_of_false (by simp) fun ⟨same, settled⟩ => unsettled (same ▸ settled)

theorem setImage_eq_ok_iff : (cursor.setImage image store).1 = .ok made ↔
    made = ⟨some image, cursor.hotspot⟩ ∧ made.Settled := by
  obtain ⟨inside, settled⟩ | ⟨refusal, refused, unsettled⟩ := checkHotspot_cases image cursor.hotspot
  next =>
    rw [setImage, inside, Except.ok.injEq, eq_comm]
    exact ⟨fun same => ⟨same, same ▸ settled⟩, And.left⟩
  next =>
    rw [setImage, refused]
    exact iff_of_false (by simp) fun ⟨same, settled⟩ => unsettled (same ▸ settled)

theorem setImage_eq_error {refusal : Refusal}
    (refused : (cursor.setImage image store).1 = .error refusal) :
    cursor.setImage image store = (.error refusal, image.release store) := by
  unfold setImage at refused ⊢
  split at refused
  next => rw [Except.error.inj refused]
  next => cases refused

theorem setHotspot_eq_ok_iff : cursor.setHotspot hotspot = .ok made ↔
    made = ⟨cursor.image, hotspot⟩ ∧ made.Settled := by
  cases shown : cursor.image with
  | none =>
    rw [setHotspot, shown, Except.ok.injEq, eq_comm]
    refine ⟨fun same => ⟨same, fun image found => ?_⟩, And.left⟩
    rw [same] at found
    cases found
  | some image =>
    obtain ⟨inside, settled⟩ | ⟨refusal, refused, unsettled⟩ := checkHotspot_cases image hotspot
    next =>
      simp only [setHotspot, shown, inside, Except.ok.injEq]
      rw [eq_comm]
      exact ⟨fun same => ⟨same, same ▸ settled⟩, And.left⟩
    next =>
      simp only [setHotspot, shown, refused]
      exact iff_of_false (by simp) fun ⟨same, settled⟩ => unsettled (same ▸ settled)

theorem duplicate_settled (settled : cursor.Settled)
    (copied : cursor.duplicate store = .ok (.ok made, next)) : made.Settled := by
  obtain ⟨_, same, _⟩ | ⟨image, _ | copy, shown, copying, same⟩ := duplicate_cases copied
  next =>
    cases same
    exact settled
  next => cases same
  next =>
    cases same
    intro other found
    cases found
    rw [(Frame.duplicate_size copying).1]
    exact settled image shown

theorem duplicate_isTwin (fine : ∀ image, cursor.image = some image →
    image.Layout store ∧ image.size.packedBytes ≤ allocationLimit) :
    ∃ twin next, cursor.duplicate store = .ok (.ok twin, next) ∧ twin.IsTwin next cursor store := by
  cases shown : cursor.image with
  | none =>
    refine ⟨cursor, store, by simp only [duplicate, shown]; rfl, rfl, id, fun image found => ?_⟩
    cases shown.symm.trans found
  | some image =>
    obtain ⟨layout, room⟩ := fine image shown
    obtain ⟨bytes, copy, copied, isCopy⟩ := layout.duplicate_isCopyOf room
    refine ⟨{ cursor with image := some copy }, (store.addBuffer .heap bytes).2, ?_, rfl, ?_, ?_⟩
    next =>
      simp only [duplicate, shown, copied, Checked.ok_bind]
      rfl
    next =>
      intro bare
      cases shown.symm.trans bare
    next =>
      intro other same
      cases shown.symm.trans same
      exact ⟨copy, rfl, isCopy⟩

end Cursor

def Holder.Settled : Holder → Prop
  | .ofCursor cursor => cursor.Settled
  | .ofFrame _ | .ofQueue _ | .ofTracker _ => True

namespace Holder

variable {holder : Holder} {slot : Slot} {frame changed : Frame}

theorem put_settled (found : holder.frame? slot = some frame) (size : changed.size = frame.size)
    (settled : holder.Settled) : (holder.put changed slot).Settled := by
  cases holder with
  | ofFrame | ofQueue | ofTracker => cases slot <;> trivial
  | ofCursor cursor =>
    cases slot with
    | previous => cases found
    | own =>
      intro image same
      cases same
      rw [size]
      exact settled frame found

theorem ofFrame?_settled (made : Option Frame) : ∀ holder ∈ ofFrame? made, holder.Settled := by
  cases made <;> simp [ofFrame?, Settled]

theorem ofCursor?_settled {made : Except Refusal Cursor}
    (settled : ∀ cursor, made = .ok cursor → cursor.Settled) :
    ∀ holder ∈ ofCursor? made.toOption, holder.Settled := by
  cases made with
  | error refusal => simp [ofCursor?, Except.toOption]
  | ok cursor => simpa [ofCursor?, Except.toOption, Settled] using settled cursor rfl

end Holder

section Runs

variable {store next : Store} {made : List Holder}

theorem Creation.run_settled {creation : Creation} (ran : creation.run store = .ok (made, next)) :
    ∀ holder ∈ made, holder.Settled := by
  cases creation with
  | supplier limit =>
    cases ran
    exact List.forall_mem_nil _
  | frame source size =>
    obtain ⟨⟨result, reserved⟩, created, ran⟩ := Checked.bind_eq_ok.mp ran
    cases ran
    exact Holder.ofFrame?_settled _
  | overBytes size stride backing bytes =>
    simp only [run] at ran
    obtain ⟨rfl, rfl⟩ := Prod.mk.inj (Except.ok.inj ran)
    exact Holder.ofFrame?_settled _
  | queue | tracker =>
    cases ran
    exact List.forall_mem_singleton.mpr trivial
  | cursor =>
    cases ran
    refine List.forall_mem_singleton.mpr fun image shown => ?_
    cases shown
  | drawn bitmaps =>
    obtain ⟨⟨result, reserved⟩, drawn, ran⟩ := Checked.bind_eq_ok.mp ran
    cases ran
    refine Holder.ofCursor?_settled fun cursor same => ?_
    obtain ⟨_, refused, _⟩ | ⟨image, _, _, _, _, _, placed⟩ := CursorBitmaps.cursor_cases drawn
    next => cases refused.symm.trans same
    next => exact (Cursor.ofImage_eq_ok_iff.mp ((congrArg Prod.fst placed).trans same)).2

theorem FrameChange.run_settled {change : FrameChange} {frame changed : Frame}
    (ran : change.run store frame = .ok (changed, made, next)) :
    changed.size = frame.size ∧ ∀ holder ∈ made, holder.Settled := by
  cases change with
  | share =>
    simp only [run, Except.ok.injEq, Prod.mk.injEq] at ran
    obtain ⟨rfl, rfl, _⟩ := ran
    exact ⟨frame.share_size store, List.forall_mem_singleton.mpr trivial⟩
  | duplicate =>
    obtain ⟨⟨result, reserved⟩, copied, ran⟩ := Checked.bind_eq_ok.mp ran
    cases ran
    exact ⟨rfl, Holder.ofFrame?_settled _⟩
  | describe info =>
    cases ran
    exact ⟨rfl, List.forall_mem_nil _⟩
  | write change =>
    obtain ⟨written, edited, ran⟩ := Checked.bind_eq_ok.mp ran
    cases ran
    exact ⟨rfl, List.forall_mem_nil _⟩

theorem Change.run_settled {change : Change} {holder : Holder} (settled : holder.Settled)
    (ran : change.run store holder = .ok (made, next)) : ∀ holder ∈ made, holder.Settled := by
  simp only [run] at ran
  split at ran
  next holder slot change =>
    split at ran
    next =>
      cases ran
      exact List.forall_mem_singleton.mpr settled
    next frame found =>
      obtain ⟨⟨changed, added, reached⟩, inner, ran⟩ := Checked.bind_eq_ok.mp ran
      cases ran
      obtain ⟨size, rest⟩ := FrameChange.run_settled inner
      exact List.forall_mem_cons.mpr ⟨Holder.put_settled found size settled, rest⟩
  next =>
    cases ran
    exact List.forall_mem_nil _
  next rect frame =>
    obtain ⟨⟨cropped, reserved⟩, taken, ran⟩ := Checked.bind_eq_ok.mp ran
    cases ran
    exact Holder.ofFrame?_settled _
  next hotspot image =>
    simp only [Except.ok.injEq, Prod.mk.injEq] at ran
    obtain ⟨rfl, _⟩ := ran
    exact Holder.ofCursor?_settled fun cursor placed => (Cursor.ofImage_eq_ok_iff.mp placed).2
  next queue =>
    cases ran
    exact List.forall_mem_singleton.mpr trivial
  next size source queue =>
    obtain ⟨⟨result, changed, reserved⟩, prepared, ran⟩ := Checked.bind_eq_ok.mp ran
    cases ran
    exact List.forall_mem_singleton.mpr trivial
  next queue =>
    simp only [Except.ok.injEq, Prod.mk.injEq] at ran
    obtain ⟨rfl, _⟩ := ran
    exact List.forall_mem_singleton.mpr trivial
  next tracker =>
    simp only [Except.ok.injEq, Prod.mk.injEq] at ran
    obtain ⟨rfl, _⟩ := ran
    exact List.forall_mem_singleton.mpr trivial
  next hotspot cursor =>
    cases ran
    refine List.forall_mem_singleton.mpr ?_
    cases set : cursor.setHotspot hotspot with
    | error refusal => exact settled
    | ok changed => exact (Cursor.setHotspot_eq_ok_iff.mp set).2
  next cursor =>
    obtain ⟨⟨result, reserved⟩, copied, ran⟩ := Checked.bind_eq_ok.mp ran
    cases ran
    refine List.forall_mem_cons.mpr ⟨settled, Holder.ofCursor?_settled fun twin same => ?_⟩
    cases result with
    | error refusal => cases same
    | ok made =>
      cases same
      exact Cursor.duplicate_settled settled copied
  next =>
    cases ran
    exact List.forall_mem_singleton.mpr settled

theorem Handover.run_settled {handover : Handover} {first second : Holder}
    (closed : ∀ slot other, handover = .swap slot other → ∀ cursor,
      first ≠ .ofCursor cursor ∧ second ≠ .ofCursor cursor)
    (settled : first.Settled) (settledToo : second.Settled)
    (ran : handover.run store first second = .ok (made, next)) : ∀ holder ∈ made, holder.Settled := by
  have untouched : ∀ holder ∈ [first, second], holder.Settled :=
    List.forall_mem_cons.mpr ⟨settled, List.forall_mem_singleton.mpr settledToo⟩
  cases handover with
  | replaceCurrent =>
    simp only [run] at ran
    split at ran
    next queue frame =>
      obtain ⟨rfl, rfl⟩ := Prod.mk.inj (Except.ok.inj ran)
      exact List.forall_mem_singleton.mpr trivial
    next =>
      cases ran
      exact untouched
  | setImage =>
    simp only [run] at ran
    split at ran
    next cursor image =>
      obtain ⟨rfl, rfl⟩ := Prod.mk.inj (Except.ok.inj ran)
      refine List.forall_mem_singleton.mpr ?_
      cases set : (cursor.setImage image store).1 with
      | error refusal => exact settled
      | ok changed => exact (Cursor.setImage_eq_ok_iff.mp set).2
    next =>
      cases ran
      exact untouched
  | process slot =>
    simp only [run] at ran
    split at ran
    next tracker frame found =>
      obtain ⟨⟨changed, processed, written⟩, processing, ran⟩ := Checked.bind_eq_ok.mp ran
      cases ran
      have size := (ChangeTracker.process_eq_ok processing).2.2
      exact List.forall_mem_cons.mpr ⟨trivial,
        List.forall_mem_singleton.mpr (Holder.put_settled found size settledToo)⟩
    next =>
      cases ran
      exact untouched
  | swap slot other =>
    have apart := closed slot other rfl
    have unmoved {holder : Holder} (frame : Frame) (slot : Slot)
        (noCursor : ∀ cursor, holder ≠ .ofCursor cursor) : (holder.put frame slot).Settled := by
      cases holder with
      | ofCursor cursor => exact absurd rfl (noCursor cursor)
      | ofFrame | ofQueue | ofTracker => cases slot <;> trivial
    simp only [run] at ran
    split at ran
    next frame otherFrame found otherFound =>
      cases ran
      exact List.forall_mem_cons.mpr ⟨unmoved _ _ fun cursor => (apart cursor).1,
        List.forall_mem_singleton.mpr (unmoved _ _ fun cursor => (apart cursor).2)⟩
    next =>
      cases ran
      exact untouched

end Runs

namespace Holdings

def Settled (holdings : Holdings) : Prop := ∀ holder ∈ holdings.holders, holder.Settled

-- Two frames change places only where they are held by themselves or in a queue: a cursor shows its
-- image to everyone, but hands it out to nobody.
def Offers (holdings : Holdings) : Action → Prop
  | .handOver index other (.swap _ _) => ∀ cursor,
      holdings.holders[index]? ≠ some (.ofCursor cursor) ∧
        (holdings.holders.eraseIdx index)[other]? ≠ some (.ofCursor cursor)
  | .create _ | .change _ _ | .handOver _ _ _ => True

inductive Reached : Holdings → Prop where
  | start : Reached start
  | step {holdings next : Holdings} {action : Action} (reached : Reached holdings)
      (typed : action.Meets .typed) (offered : holdings.Offers action)
      (stepped : holdings.step action = .ok next) : Reached next

variable {holdings next : Holdings} {action : Action}

theorem step_settled (settled : holdings.Settled) (offered : holdings.Offers action)
    (stepped : holdings.step action = .ok next) : next.Settled := by
  have rest (holders : List Holder) (kept : ∀ holder ∈ holders, holder.Settled) (index : Nat) :
      ∀ holder ∈ holders.eraseIdx index, holder.Settled :=
    fun holder member => kept holder (List.mem_of_mem_eraseIdx member)
  cases action with
  | create creation =>
    obtain ⟨⟨made, reserved⟩, ran, stepped⟩ := Checked.bind_eq_ok.mp stepped
    cases stepped
    exact List.forall_mem_append.mpr ⟨settled, Creation.run_settled ran⟩
  | change index change =>
    simp only [step] at stepped
    split at stepped
    next =>
      cases stepped
      exact settled
    next holder found =>
      obtain ⟨⟨made, changed⟩, ran, stepped⟩ := Checked.bind_eq_ok.mp stepped
      cases stepped
      have own := settled holder (List.mem_of_getElem? found)
      exact List.forall_mem_append.mpr ⟨rest _ settled index, Change.run_settled own ran⟩
  | handOver index other handover =>
    simp only [step] at stepped
    split at stepped
    next first second found foundOther =>
      obtain ⟨⟨made, changed⟩, ran, stepped⟩ := Checked.bind_eq_ok.mp stepped
      cases stepped
      have remaining := rest _ settled index
      refine List.forall_mem_append.mpr ⟨rest _ remaining other, Handover.run_settled ?_
        (settled first (List.mem_of_getElem? found))
        (remaining second (List.mem_of_getElem? foundOther)) ran⟩
      rintro slot otherSlot rfl cursor
      obtain ⟨left, right⟩ := offered cursor
      exact ⟨fun same => left (same ▸ found), fun same => right (same ▸ foundOther)⟩
    next =>
      cases stepped
      exact settled

theorem Reached.copying (reached : holdings.Reached) : holdings.Copying := by
  induction reached with
  | start => exact start_copying
  | step _ typed _ stepped ih => exact ih.step typed stepped

theorem Reached.settled (reached : holdings.Reached) : holdings.Settled := by
  induction reached with
  | start => exact List.forall_mem_nil _
  | step _ _ offered stepped ih => exact step_settled ih offered stepped

theorem refused_image {index other : Nat} {cursor : Cursor} {image : Frame} {refusal : Refusal}
    (reached : holdings.Reached) (found : holdings.holders[index]? = some (.ofCursor cursor))
    (given : (holdings.holders.eraseIdx index)[other]? = some (.ofFrame image))
    (refused : (cursor.setImage image holdings.store).1 = .error refusal) :
    ∃ next, holdings.step (.handOver index other .setImage) = .ok next ∧
      next.holders = (holdings.holders.eraseIdx index).eraseIdx other ++ [.ofCursor cursor] ∧
        ∀ own, cursor.image = some own → own.ReadsAlike holdings.store next.store := by
  refine ⟨⟨image.release holdings.store, _⟩, ?_, rfl, fun own shown => ?_⟩
  next =>
    simp only [step, found, given, Handover.run, Cursor.setImage_eq_error refused]
    rfl
  next =>
    have live : holdings.live = {image} +
        (cursor.frames + framesOf ((holdings.holders.eraseIdx index).eraseIdx other)) := by
      rw [live, framesOf_eraseIdx found, framesOf_eraseIdx given, Holder.frames_ofCursor,
        Holder.frames_ofFrame, add_left_comm]
    have member : own ∈ cursor.frames := by
      rw [Cursor.frames, shown]
      exact Multiset.mem_singleton_self own
    exact (image.release_exchange holdings.store).readsAlike (live ▸ reached.copying.owned)
      (Multiset.mem_add.mpr (.inl member))

theorem hotspots_inside (reached : holdings.Reached) :
    (∀ image hotspot made, (Cursor.ofImage image hotspot holdings.store).1 = .ok made ↔
      made = ⟨some image, hotspot⟩ ∧ made.Settled) ∧
    ∀ index cursor, holdings.holders[index]? = some (.ofCursor cursor) →
      cursor.Settled ∧
      (∀ hotspot made, cursor.setHotspot hotspot = .ok made ↔
        made = ⟨cursor.image, hotspot⟩ ∧ made.Settled) ∧
      (∀ image made, (cursor.setImage image holdings.store).1 = .ok made ↔
        made = ⟨some image, cursor.hotspot⟩ ∧ made.Settled) ∧
      (∀ hotspot refusal, cursor.setHotspot hotspot = .error refusal →
        holdings.step (.change index (.setHotspot hotspot)) =
          .ok ⟨holdings.store, holdings.holders.eraseIdx index ++ [.ofCursor cursor]⟩) ∧
      (∀ other image refusal, (holdings.holders.eraseIdx index)[other]? = some (.ofFrame image) →
        (cursor.setImage image holdings.store).1 = .error refusal →
        ∃ next, holdings.step (.handOver index other .setImage) = .ok next ∧
          next.holders = (holdings.holders.eraseIdx index).eraseIdx other ++ [.ofCursor cursor] ∧
          ∀ own, cursor.image = some own → own.ReadsAlike holdings.store next.store) ∧
      ∃ twin next, cursor.duplicate holdings.store = .ok (.ok twin, next) ∧
        twin.IsTwin next cursor holdings.store := by
  refine ⟨fun image hotspot made => Cursor.ofImage_eq_ok_iff, fun index cursor found => ?_⟩
  have settled : cursor.Settled := reached.settled _ (List.mem_of_getElem? found)
  refine ⟨settled, fun _ _ => Cursor.setHotspot_eq_ok_iff, fun _ _ => Cursor.setImage_eq_ok_iff, ?_,
    fun _ _ _ given refused => refused_image reached found given refused, ?_⟩
  next =>
    intro hotspot refusal refused
    simp only [step, found, Change.run, refused]
    rfl
  next =>
    refine Cursor.duplicate_isTwin fun image shown => ?_
    have member : image ∈ holdings.live := by
      rw [live, framesOf_eraseIdx found, Holder.frames_ofCursor, Cursor.frames, shown]
      exact Multiset.mem_add.mpr (.inl (Multiset.mem_singleton_self image))
    exact ⟨reached.copying.laid image member, reached.copying.room image member⟩

theorem hotspots_inside_corner : ∃ (holdings : Holdings) (cursor : Cursor) (image : Frame),
    holdings.Reached ∧
    holdings.holders = [.ofCursor cursor, .ofFrame image] ∧ cursor.hotspot = ⟨1, 1⟩ ∧
      cursor.Settled ∧ image.size = ⟨1, 1⟩ ∧
      (∀ made, (cursor.setImage image holdings.store).1 ≠ .ok made) ∧
      (∃ made, cursor.setHotspot ⟨0, 1⟩ = .ok made) ∧
      ∃ twin next, cursor.duplicate holdings.store = .ok (.ok twin, next) ∧
        twin.IsTwin next cursor holdings.store := by
  have large : (Action.create (.frame .heap ⟨2, 2⟩)).Meets .typed :=
    (by decide : Size.Bounded ⟨2, 2⟩)
  have small : (Action.create (.frame .heap ⟨1, 1⟩)).Meets .typed :=
    (by decide : Size.Bounded ⟨1, 1⟩)
  have placed : (Action.change 0 (.toCursor ⟨1, 1⟩)).Meets .typed := trivial
  obtain ⟨holdings, cursor, image, shown, reached, holders, hotspot, own, size, other⟩ :
      ∃ (holdings : Holdings) (cursor : Cursor) (image shown : Frame), holdings.Reached ∧
        holdings.holders = [.ofCursor cursor, .ofFrame image] ∧ cursor.hotspot = ⟨1, 1⟩ ∧
          cursor.image = some shown ∧ shown.size = ⟨2, 2⟩ ∧ image.size = ⟨1, 1⟩ :=
    ⟨_, _, _, _, ((Reached.start.step large trivial rfl).step placed trivial rfl).step small trivial rfl,
      rfl, rfl, rfl, rfl, rfl⟩
  obtain ⟨_, cursors⟩ := hotspots_inside reached
  obtain ⟨settled, setHotspot, setImage, _, _, twin⟩ := cursors 0 cursor (by rw [holders]; rfl)
  refine ⟨holdings, cursor, image, reached, holders, hotspot, settled, other, ?_, ?_, twin⟩
  next =>
    intro made placed
    obtain ⟨rfl, inside⟩ := (setImage image made).mp placed
    have across := (inside image rfl).1.2
    rw [hotspot, other] at across
    exact absurd across (by decide)
  next =>
    refine ⟨_, (setHotspot ⟨0, 1⟩ _).mpr ⟨rfl, fun found same => ?_⟩⟩
    cases own.symm.trans same
    rw [size]
    dsimp only
    decide

end Holdings

end ScreenCapture
