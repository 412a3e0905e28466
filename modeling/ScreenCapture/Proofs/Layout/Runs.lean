import ScreenCapture.Proofs.Blank.Sampling
import ScreenCapture.Proofs.Layout.Upkeep
import ScreenCapture.Proofs.Ownership.Runs

set_option autoImplicit false

namespace ScreenCapture

def Creation.IsFrame : Creation → Prop
  | .frame _ size => size.Bounded
  | .overBytes size _ _ bytes => size.Bounded ∧ bytes.size < addressLimit
  | .supplier _ => True
  | .queue | .tracker | .cursor | .drawn _ => False

def FrameChange.KeepsLength : FrameChange → Prop
  | .write change => ∀ plane bytes, change plane = .ok bytes → bytes.size = plane.bytes.size
  | .share | .duplicate | .describe _ => True

def Change.IsFrame : Change → Prop
  | .within _ change => change.KeepsLength
  | .drop | .crop _ => True
  | _ => False

def Action.IsFrame : Action → Prop
  | .create creation => creation.IsFrame
  | .change _ deed => deed.IsFrame
  | .handOver .. => False

theorem Action.IsFrame.meets {action : Action} (isFrame : action.IsFrame) : action.Meets .frames := by
  cases action with
  | create creation =>
    cases creation with
    | frame | overBytes => exact isFrame
    | supplier => trivial
    | queue | tracker | cursor | drawn => cases isFrame
  | change index deed =>
    cases deed with
    | within slot change =>
      cases change with
      | write => exact isFrame
      | share | duplicate | describe => trivial
    | drop | crop => trivial
    | toCursor | advance | prepare | reset | forget | setHotspot | duplicateCursor => cases isFrame
  | handOver => cases isFrame

namespace Holdings

theorem step_upkeep {holdings next : Holdings} {action : Action} (isFrame : action.IsFrame)
    (stepped : holdings.step action = .ok next) :
    Upkeep holdings.store holdings.live next.store next.live :=
  (step_handling isFrame.meets stepped).upkeep Demands.frames_layOut

theorem run_upkeep {actions : List Action} {holdings next : Holdings}
    (isFrame : ∀ action ∈ actions, action.IsFrame) (ran : holdings.run actions = .ok next) :
    Upkeep holdings.store holdings.live next.store next.live :=
  (run_handling (fun action member => (isFrame action member).meets) ran).upkeep
    Demands.frames_layOut

end Holdings

structure Frame.Readable (frame : Frame) (store : Store) : Prop where
  lines : ∀ y : Nat, (y : Int) < frame.size.height →
    y * frame.stride + 4 * frame.size.width.toNat ≤ (frame.data store).size
  addressable : (frame.data store).size < addressLimit
  row : ∀ y, 0 ≤ y → y < frame.size.height → ∃ bytes, frame.row y store = .ok bytes
  pixels : ∃ bytes, frame.pixels store = .ok bytes
  isBlack : ∃ answer, frame.isBlack store = .ok answer
  isBlank : ∀ blank, ∃ answer, Blank.isBlank frame blank store = .ok answer
  duplicate : ∃ result, frame.duplicate store = .ok result
  blacken : frame.isWritable store = true → ∃ next, frame.blacken store = .ok next
  clear : frame.isWritable store = true → ∃ next, frame.clear store = .ok next

theorem Frame.Layout.readable {frame : Frame} {store : Store} (layout : frame.Layout store) :
    frame.Readable store := by
  have length : (frame.data store).size = frame.dataLength store := by
    simp [Frame.data, Frame.dataLength]
  have addressable := layout.addressable
  refine ⟨?_, ?_, ?_, layout.pixels_answers, layout.isBlack_answers, layout.isBlank_answers, ?_,
    layout.blacken_ok, layout.clear_ok⟩
  next =>
    intro y below
    rw [length, Nat.mul_comm 4]
    exact layout.lines y (by omega)
  next =>
    unfold Frame.dataLength at length
    omega
  next =>
    intro y proper below
    obtain ⟨line, rfl⟩ := Int.eq_ofNat_of_zero_le proper
    exact ⟨_, layout.row_eq (by omega)⟩
  next =>
    obtain ⟨made, next, copied, _⟩ := layout.duplicate_ok
    exact ⟨_, copied⟩

namespace Holdings

theorem frames_readable :
    (∀ size stride backing bytes store, bytes.size < addressLimit →
      ((∃ frame, (Frame.overBytes size stride backing bytes store).1 = .ok frame) ↔
        (0 ≤ size.width ∧ 0 ≤ size.height) ∧ 4 * size.width ≤ (stride : Int) ∧
          (stride : Int) * size.height ≤ (bytes.size : Int))) ∧
    (∀ size store, (∃ frame, (Frame.createOnHeap size store).1 = .ok frame) ↔
      (0 ≤ size.width ∧ 0 ≤ size.height) ∧
        4 * size.width * size.height ≤ (allocationLimit : Int)) ∧
    ∀ actions holdings, (∀ action ∈ actions, action.IsFrame) → start.run actions = .ok holdings →
      ∀ frame ∈ holdings.live, frame.Readable holdings.store ∧
        ∀ other ∈ holdings.live, ∃ answer, frame.looksLike other holdings.store = .ok answer := by
  refine ⟨fun _ _ _ _ _ reached => Frame.exists_overBytes_iff reached,
    fun _ _ => Frame.exists_createOnHeap_iff, ?_⟩
  intro actions holdings isFrame ran frame member
  have laid : LaidOut holdings.store holdings.live :=
    ((run_upkeep isFrame ran).settled start_owned .zero).2
  have layout := laid frame member
  exact ⟨layout.readable, fun other held => layout.looksLike_answers (laid other held)⟩

def cropTwice : List Action :=
  [.create (.overBytes ⟨3, 3⟩ 14 .external (Bytes.zeros 42)), .change 0 (.within .own .share),
    .change 0 (.crop ⟨1, 1, 3, 3⟩), .change 1 (.crop ⟨1, 1, 2, 2⟩), .change 1 (.within .own .duplicate)]

theorem frames_readable_of_cropTwice : ∃ holdings part,
    (∀ action ∈ cropTwice, action.IsFrame) ∧ start.run cropTwice = .ok holdings ∧
      part ∈ holdings.live ∧ (part.isCropped = true ∧ part.offset = 36 ∧ part.stride = 14) ∧
      part.Readable holdings.store ∧
      ((∃ frame, (Frame.overBytes ⟨1, 1⟩ 4 .external (Bytes.zeros 4) holdings.store).1 = .ok frame) ↔
        ((0 : Int) ≤ 1 ∧ (0 : Int) ≤ 1) ∧ (4 : Int) * 1 ≤ (4 : Nat) ∧
          ((4 : Nat) : Int) * 1 ≤ ((Bytes.zeros 4).size : Int)) := by
  obtain ⟨holdings, handle, part, copy, ran, live, placed⟩ : ∃ holdings handle part copy,
      start.run cropTwice = .ok holdings ∧ holdings.live = {handle} + ({part} + {copy}) ∧
        part.isCropped = true ∧ part.offset = 36 ∧ part.stride = 14 :=
    ⟨_, _, _, _, rfl, rfl, rfl, rfl, rfl⟩
  have member : part ∈ holdings.live := by simp [live]
  have isFrame : ∀ action ∈ cropTwice, action.IsFrame := by
    simp [cropTwice, Action.IsFrame, Creation.IsFrame, Change.IsFrame, FrameChange.KeepsLength]
    decide
  have readable := frames_readable.2.2 cropTwice holdings isFrame ran part member
  exact ⟨holdings, part, isFrame, ran, member, placed, readable.1,
    frames_readable.1 ⟨1, 1⟩ 4 .external (Bytes.zeros 4) holdings.store (by decide)⟩

end Holdings

end ScreenCapture
