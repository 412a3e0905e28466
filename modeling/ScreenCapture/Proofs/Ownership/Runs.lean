import Mathlib.Algebra.BigOperators.Group.List.Basic
import ScreenCapture.Proofs.Ownership.Holdings

set_option autoImplicit false

namespace ScreenCapture

section FramesOf

variable (holder : Holder) (holders more : List Holder)

@[simp]
theorem framesOf_nil : framesOf [] = 0 := rfl

@[simp]
theorem framesOf_cons : framesOf (holder :: holders) = holder.frames + framesOf holders := by
  simp [framesOf]

@[simp]
theorem framesOf_append : framesOf (holders ++ more) = framesOf holders + framesOf more := by
  simp [framesOf]

@[simp]
theorem framesOf_ofFrame? (frame : Option Frame) : framesOf (Holder.ofFrame? frame) = held frame := by
  cases frame <;> rfl

@[simp]
theorem framesOf_ofCursor? (cursor : Option Cursor) :
    framesOf (Holder.ofCursor? cursor) = heldByCursor cursor := by
  cases cursor <;> simp [Holder.ofCursor?, heldByCursor]

theorem framesOf_eraseIdx {holder : Holder} {holders : List Holder} {index : Nat}
    (found : holders[index]? = some holder) :
    framesOf holders = holder.frames + framesOf (holders.eraseIdx index) := by
  obtain ⟨within, rfl⟩ := List.getElem?_eq_some_iff.mp found
  have shuffled := List.getElem_cons_eraseIdx_perm within
  exact (shuffled.map Holder.frames).sum_eq.symm

end FramesOf

namespace Holder

theorem frame?_split {holder : Holder} {slot : Slot} {frame : Frame}
    (found : holder.frame? slot = some frame) :
    ∃ rest, holder.frames = {frame} + rest ∧
      ∀ changed, (holder.put changed slot).frames = {changed} + rest := by
  cases slot with
  | own =>
    cases holder with
    | ofFrame own =>
      cases found
      exact ⟨0, rfl, fun _ => rfl⟩
    | ofQueue queue =>
      have current : queue.current = some frame := found
      refine ⟨held queue.previous, ?_, fun _ => rfl⟩
      simp only [frames, Queue.frames, current, held]
    | ofTracker tracker => cases found
    | ofCursor cursor =>
      have image : cursor.image = some frame := found
      refine ⟨0, ?_, fun _ => rfl⟩
      simp only [frames, Cursor.frames, image, held, add_zero]
  | previous =>
    cases holder with
    | ofQueue queue =>
      have previous : queue.previous = some frame := found
      refine ⟨held queue.current, ?_, fun _ => add_comm _ _⟩
      simp only [frames, Queue.frames, previous, held, add_comm]
    | ofFrame own => cases found
    | ofTracker tracker => cases found
    | ofCursor cursor => cases found

theorem release_handling {demands : Demands} (holder : Holder) (store : Store) :
    Handling demands store holder.frames (holder.release store) 0 := by
  cases holder with
  | ofFrame frame => exact .release frame store
  | ofQueue queue => exact (queue.reset_handling store).cast rfl rfl
  | ofTracker tracker => exact tracker.release_handling store
  | ofCursor cursor => exact cursor.release_handling store

theorem put_handling {demands : Demands} {holder : Holder} {slot : Slot} {store next : Store}
    {frame changed : Frame} {added : Multiset Frame} (found : holder.frame? slot = some frame)
    (handling : Handling demands store {frame} next ({changed} + added)) :
    Handling demands store holder.frames next ((holder.put changed slot).frames + added) := by
  obtain ⟨rest, before, after⟩ := frame?_split found
  refine (handling.beside rest).cast before ?_
  rw [after, add_right_comm]

end Holder

section Meets

variable (demands : Demands)

def Creation.Meets : Creation → Prop
  | .frame _ size => demands.size size
  | .overBytes size _ _ bytes => demands.size size ∧ demands.bytes bytes
  | .drawn bitmaps => demands.bitmaps bitmaps
  | .supplier _ | .queue | .tracker | .cursor => True

def FrameChange.Meets : FrameChange → Prop
  | .write change => demands.change change
  | .share | .duplicate | .describe _ => True

def Change.Meets : Change → Prop
  | .within _ change => change.Meets demands
  | .prepare size _ => demands.size size
  | .drop | .crop _ | .toCursor _ | .advance | .reset | .forget | .setHotspot _ | .duplicateCursor => True

def Action.Meets : Action → Prop
  | .create creation => creation.Meets demands
  | .change _ deed => deed.Meets demands
  | .handOver .. => True

end Meets

theorem Change.meets_any (change : Change) : change.Meets .any := by
  cases change with
  | within slot change => cases change <;> trivial
  | _ => trivial

theorem Action.meets_any (action : Action) : action.Meets .any := by
  cases action with
  | create creation => cases creation <;> simp [Meets, Creation.Meets, Demands.any]
  | change index change => exact change.meets_any
  | handOver _ _ _ => trivial

variable {demands : Demands}

theorem Creation.run_handling {creation : Creation} {store next : Store} {made : List Holder}
    (meets : creation.Meets demands) (ran : creation.run store = .ok (made, next)) :
    Handling demands store 0 next (framesOf made) := by
  cases creation with
  | supplier limit =>
    cases ran
    exact .supply limit store
  | frame source size =>
    obtain ⟨⟨result, reserved⟩, created, ran⟩ := Checked.bind_eq_ok.mp ran
    cases ran
    rw [framesOf_ofFrame?]
    exact .create meets created
  | overBytes size stride backing bytes =>
    simp only [run] at ran
    obtain ⟨rfl, rfl⟩ := Prod.mk.inj (Except.ok.inj ran)
    rw [framesOf_ofFrame?]
    exact .overBytes meets.1 meets.2 stride backing store
  | queue | tracker | cursor =>
    cases ran
    exact .refl _ _
  | drawn bitmaps =>
    obtain ⟨⟨result, reserved⟩, drawn, ran⟩ := Checked.bind_eq_ok.mp ran
    cases ran
    rw [framesOf_ofCursor?]
    exact CursorBitmaps.cursor_handling meets drawn

theorem FrameChange.run_handling {change : FrameChange} {store next : Store} {frame changed : Frame}
    {made : List Holder} (meets : change.Meets demands)
    (ran : change.run store frame = .ok (changed, made, next)) :
    Handling demands store {frame} next ({changed} + framesOf made) := by
  cases change with
  | share =>
    simp only [run, Except.ok.injEq, Prod.mk.injEq] at ran
    obtain ⟨rfl, rfl, rfl⟩ := ran
    exact (Handling.share frame store).cast rfl (by simp)
  | duplicate =>
    obtain ⟨⟨result, reserved⟩, copied, ran⟩ := Checked.bind_eq_ok.mp ran
    cases ran
    exact (Handling.duplicate copied).cast rfl (by simp)
  | describe info =>
    cases ran
    exact .describe frame info store
  | write change =>
    obtain ⟨written, edited, ran⟩ := Checked.bind_eq_ok.mp ran
    cases ran
    exact .write meets edited

theorem Change.run_handling {change : Change} {store next : Store} {holder : Holder}
    {made : List Holder} (meets : change.Meets demands)
    (ran : change.run store holder = .ok (made, next)) :
    Handling demands store holder.frames next (framesOf made) := by
  simp only [run] at ran
  split at ran
  next holder slot change =>
    split at ran
    next =>
      cases ran
      exact (Handling.refl store _).cast rfl (by simp)
    next frame found =>
      obtain ⟨⟨changed, added, reached⟩, inner, ran⟩ := Checked.bind_eq_ok.mp ran
      cases ran
      exact (Holder.put_handling found (FrameChange.run_handling meets inner)).cast rfl (by simp)
  next =>
    cases ran
    exact Holder.release_handling _ store
  next rect frame =>
    obtain ⟨⟨cropped, reserved⟩, taken, ran⟩ := Checked.bind_eq_ok.mp ran
    cases ran
    exact (Handling.crop taken).cast rfl (by simp)
  next hotspot image =>
    simp only [Except.ok.injEq, Prod.mk.injEq] at ran
    obtain ⟨rfl, rfl⟩ := ran
    exact (Cursor.ofImage_handling image hotspot store).cast rfl (by simp)
  next queue =>
    cases ran
    exact (Handling.refl store _).cast queue.frames_advance.symm (by simp)
  next size source queue =>
    obtain ⟨⟨result, changed, reserved⟩, prepared, ran⟩ := Checked.bind_eq_ok.mp ran
    cases ran
    exact (Queue.prepare_handling meets prepared).cast rfl (by simp)
  next queue =>
    simp only [Except.ok.injEq, Prod.mk.injEq] at ran
    obtain ⟨rfl, rfl⟩ := ran
    exact (queue.reset_handling store).cast rfl (by simp)
  next tracker =>
    simp only [Except.ok.injEq, Prod.mk.injEq] at ran
    obtain ⟨rfl, rfl⟩ := ran
    exact (tracker.release_handling store).cast rfl rfl
  next hotspot cursor =>
    cases ran
    refine (Handling.refl store cursor.frames).cast rfl ?_
    cases set : cursor.setHotspot hotspot with
    | error refusal => simp [Except.toOption]
    | ok changed => simpa [Except.toOption] using Cursor.frames_setHotspot set
  next cursor =>
    obtain ⟨⟨result, reserved⟩, copied, ran⟩ := Checked.bind_eq_ok.mp ran
    cases ran
    exact (Cursor.duplicate_handling copied).cast rfl (by simp)
  next =>
    cases ran
    exact (Handling.refl store _).cast rfl (by simp)

theorem Change.run_exchange {change : Change} {store next : Store} {holder : Holder}
    {made : List Holder} (ran : change.run store holder = .ok (made, next)) :
    Exchange store holder.frames next (framesOf made) :=
  (change.run_handling change.meets_any ran).exchange

theorem Handover.run_handling {handover : Handover} {store next : Store} {first second : Holder}
    {made : List Holder} (ran : handover.run store first second = .ok (made, next)) :
    Handling demands store (first.frames + second.frames) next (framesOf made) := by
  have untouched :
      Handling demands store (first.frames + second.frames) store (framesOf [first, second]) :=
    (Handling.refl store _).cast rfl (by simp)
  cases handover with
  | replaceCurrent =>
    simp only [run] at ran
    split at ran
    next queue frame =>
      obtain ⟨rfl, rfl⟩ := Prod.mk.inj (Except.ok.inj ran)
      exact (queue.replace_handling frame store).cast rfl (by simp)
    next =>
      cases ran
      exact untouched
  | setImage =>
    simp only [run] at ran
    split at ran
    next cursor image =>
      obtain ⟨rfl, rfl⟩ := Prod.mk.inj (Except.ok.inj ran)
      exact (cursor.setImage_handling image store).cast rfl (by simp)
    next =>
      cases ran
      exact untouched
  | process slot =>
    simp only [run] at ran
    split at ran
    next tracker frame found =>
      obtain ⟨⟨changed, processed, written⟩, processing, ran⟩ := Checked.bind_eq_ok.mp ran
      cases ran
      obtain ⟨rest, before, after⟩ := Holder.frame?_split found
      refine ((ChangeTracker.process_handling processing).beside rest).cast ?_ ?_
      · simp [before, add_assoc]
      · simp [after, add_assoc]
    next =>
      cases ran
      exact untouched
  | swap slot other =>
    simp only [run] at ran
    split at ran
    next frame otherFrame found otherFound =>
      cases ran
      obtain ⟨rest, before, after⟩ := Holder.frame?_split found
      obtain ⟨otherRest, otherBefore, otherAfter⟩ := Holder.frame?_split otherFound
      refine (Handling.refl store _).cast rfl ?_
      simp only [framesOf_cons, framesOf_nil, before, after, otherBefore, otherAfter, add_zero]
      ac_rfl
    next =>
      cases ran
      exact untouched

namespace Holdings

theorem step_handling {holdings next : Holdings} {action : Action} (meets : action.Meets demands)
    (stepped : holdings.step action = .ok next) :
    Handling demands holdings.store holdings.live next.store next.live := by
  cases action with
  | create creation =>
    obtain ⟨⟨made, reserved⟩, ran, stepped⟩ := Checked.bind_eq_ok.mp stepped
    cases stepped
    refine ((Creation.run_handling meets ran).behind holdings.live).cast (add_zero _).symm ?_
    simp [live]
  | change index change =>
    simp only [step] at stepped
    split at stepped
    next =>
      cases stepped
      exact .refl _ _
    next holder found =>
      obtain ⟨⟨made, changed⟩, ran, stepped⟩ := Checked.bind_eq_ok.mp stepped
      cases stepped
      refine ((Change.run_handling meets ran).beside _).cast (framesOf_eraseIdx found) ?_
      simp [live, add_comm]
  | handOver index other handover =>
    simp only [step] at stepped
    split at stepped
    next first second found foundOther =>
      obtain ⟨⟨made, changed⟩, ran, stepped⟩ := Checked.bind_eq_ok.mp stepped
      cases stepped
      have split : holdings.live = first.frames + second.frames +
          framesOf ((holdings.holders.eraseIdx index).eraseIdx other) := by
        rw [live, framesOf_eraseIdx found, framesOf_eraseIdx foundOther, add_assoc]
      refine ((Handover.run_handling ran).beside _).cast split ?_
      simp [live, add_comm]
    next =>
      cases stepped
      exact .refl _ _

theorem run_handling {actions : List Action} {holdings next : Holdings}
    (meets : ∀ action ∈ actions, action.Meets demands) (ran : holdings.run actions = .ok next) :
    Handling demands holdings.store holdings.live next.store next.live := by
  induction actions generalizing holdings with
  | nil =>
    cases ran
    exact .refl _ _
  | cons action rest ih =>
    obtain ⟨middle, stepped, ran⟩ := Checked.bind_eq_ok.mp ran
    have first := step_handling (meets action (.head _)) stepped
    exact first.trans (ih (fun later member => meets later (.tail _ member)) ran)

theorem step_exchange {holdings next : Holdings} {action : Action}
    (stepped : holdings.step action = .ok next) :
    Exchange holdings.store holdings.live next.store next.live :=
  (step_handling action.meets_any stepped).exchange

theorem run_exchange {actions : List Action} {holdings next : Holdings}
    (ran : holdings.run actions = .ok next) :
    Exchange holdings.store holdings.live next.store next.live :=
  (run_handling (fun action _ => action.meets_any) ran).exchange

theorem start_owned : Owned start.store start.live := ⟨0, Accounted.empty⟩

theorem run_owned {actions : List Action} {next : Holdings} (ran : start.run actions = .ok next) :
    Owned next.store next.live :=
  (run_exchange ran).owned start_owned

end Holdings

end ScreenCapture
