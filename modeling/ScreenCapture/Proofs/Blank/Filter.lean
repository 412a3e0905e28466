import ScreenCapture.Proofs.Blank.Sampling

set_option autoImplicit false

namespace ScreenCapture

structure Shot where
  frame : Frame
  store : Store

inductive FilterCall where
  | check (shot : Shot)
  | reset

namespace FilterCall

def extend (shots : List Shot) : FilterCall → List Shot
  | .check shot => shots ++ [shot]
  | .reset => []

def sinceReset (calls : List FilterCall) : List Shot := calls.foldl extend []

variable {calls : List FilterCall} {call : FilterCall} {index : Nat}

theorem sinceReset_succ (called : calls[index]? = some call) :
    sinceReset (calls.take (index + 1)) = call.extend (sinceReset (calls.take index)) := by
  rw [sinceReset, List.take_add_one, called, List.foldl_append]
  rfl

end FilterCall

namespace BlankFilter

def step (filter : BlankFilter) : FilterCall → Checked (Option Bool × BlankFilter)
  | .check shot => do
      let (delivers, filter) ← filter.check shot.frame shot.store
      return (some delivers, filter)
  | .reset => .ok (none, filter.reset)

def run (filter : BlankFilter) : List FilterCall → Checked (List (Option Bool) × BlankFilter)
  | [] => .ok ([], filter)
  | call :: calls => do
      let (answer, filter) ← filter.step call
      let (answers, filter) ← filter.run calls
      return (answer :: answers, filter)

def Samples (earlier : List Shot) (shot : Shot) : Prop :=
  earlier = [] ∨ shot.frame.info.updated.isEmpty = false

def Opens (blank : Color) (shots : List Shot) : Prop :=
  ∃ earlier shot later, shots = earlier ++ shot :: later ∧ Samples earlier shot ∧
    Blank.isBlank shot.frame blank shot.store = .ok false

-- What the flags of a filter say about the frames that were checked since the last reset. While it
-- is closed, the last verdict is that of each frame so far.
structure Tracks (filter : BlankFilter) (blank : Color) (shots : List Shot) : Prop where
  color : filter.blank = blank
  isOpen : filter.isOpen = true ↔ Opens blank shots
  isFirst : filter.isOpen = false → (filter.isFirst = true ↔ shots = [])
  lastIsBlank : filter.isOpen = false → shots ≠ [] → filter.lastIsBlank = true

def Answers (blank : Color) (shots : List Shot) : FilterCall → Option Bool → Prop
  | .check _, answer => ∃ delivers, answer = some delivers ∧ (delivers = true ↔ Opens blank shots)
  | .reset, answer => answer = none

variable {filter : BlankFilter} {blank : Color} {shots : List Shot} {shot : Shot}
  {calls : List FilterCall}

theorem not_opens_nil : ¬Opens blank [] := by
  rintro ⟨earlier, shot, later, empty, _⟩
  cases earlier <;> cases empty

theorem opens_append_iff : Opens blank (shots ++ [shot]) ↔ Opens blank shots ∨
    Samples shots shot ∧ Blank.isBlank shot.frame blank shot.store = .ok false := by
  constructor
  next =>
    rintro ⟨earlier, other, later, split, sampled, stands⟩
    obtain rfl | ⟨later, last, rfl⟩ := List.eq_nil_or_concat later
    next =>
      obtain ⟨rfl, last⟩ := List.append_inj' split rfl
      cases last
      exact .inr ⟨sampled, stands⟩
    next =>
      rw [List.concat_eq_append, ← List.cons_append, ← List.append_assoc] at split
      exact .inl ⟨earlier, other, later, (List.append_inj' split rfl).1, sampled, stands⟩
  next =>
    rintro (⟨earlier, other, later, rfl, sampled, stands⟩ | ⟨sampled, stands⟩)
    next => exact ⟨earlier, other, later ++ [shot], by simp, sampled, stands⟩
    next => exact ⟨shots, shot, [], rfl, sampled, stands⟩

theorem fresh_tracks (blank : Color) : (fresh blank).Tracks blank [] where
  color := rfl
  isOpen := iff_of_false nofun not_opens_nil
  isFirst _ := iff_of_true rfl rfl
  lastIsBlank _ some := absurd rfl some

namespace Tracks

theorem of_isOpen (color : filter.blank = blank) (opened : filter.isOpen = true)
    (opens : Opens blank shots) : filter.Tracks blank shots where
  color := color
  isOpen := iff_of_true opened opens
  isFirst closed := nomatch opened.symm.trans closed
  lastIsBlank closed := nomatch opened.symm.trans closed

theorem of_lastIsBlank (color : filter.blank = blank) (closed : filter.isOpen = false)
    (later : filter.isFirst = false) (held : filter.lastIsBlank = true)
    (shut : ¬Opens blank (shots ++ [shot])) : filter.Tracks blank (shots ++ [shot]) where
  color := color
  isOpen := iff_of_false (Bool.eq_false_iff.mp closed) shut
  isFirst _ := iff_of_false (Bool.eq_false_iff.mp later) (List.append_ne_nil_of_right_ne_nil _ nofun)
  lastIsBlank _ _ := held

variable (tracks : filter.Tracks blank shots)

include tracks

theorem samples_iff (closed : filter.isOpen = false) :
    (filter.isFirst || !shot.frame.info.updated.isEmpty) = true ↔ Samples shots shot := by
  rw [Bool.or_eq_true, Bool.not_eq_true', tracks.isFirst closed, Samples]

theorem check (layout : shot.frame.Layout shot.store) :
    ∃ delivers next, filter.check shot.frame shot.store = .ok (delivers, next) ∧
      (delivers = true ↔ Opens blank (shots ++ [shot])) ∧ next.Tracks blank (shots ++ [shot]) := by
  cases opened : filter.isOpen with
  | true =>
    have opens : Opens blank (shots ++ [shot]) :=
      opens_append_iff.mpr (.inl (tracks.isOpen.mp opened))
    refine ⟨true, filter, ?_, iff_of_true rfl opens, .of_isOpen tracks.color opened opens⟩
    rw [BlankFilter.check, if_pos opened]
    rfl
  | false =>
    have shut : ¬Opens blank shots := fun opens =>
      Bool.false_ne_true (opened.symm.trans (tracks.isOpen.mpr opens))
    rw [BlankFilter.check, opened, if_neg Bool.false_ne_true, sample]
    split
    next sampled =>
      rw [tracks.samples_iff opened] at sampled
      obtain ⟨verdict, answered⟩ := layout.isBlank_answers blank
      rw [tracks.color, answered]
      cases verdict with
      | true =>
        have closed : ¬Opens blank (shots ++ [shot]) := by
          rw [opens_append_iff, answered]
          rintro (opens | ⟨_, stands⟩)
          next => exact shut opens
          next => cases stands
        exact ⟨false, _, rfl, iff_of_false nofun closed, .of_lastIsBlank rfl opened rfl rfl closed⟩
      | false =>
        have opens := opens_append_iff.mpr (.inr ⟨sampled, answered⟩)
        exact ⟨true, _, rfl, iff_of_true rfl opens, .of_isOpen rfl rfl opens⟩
    next skipped =>
      rw [tracks.samples_iff opened] at skipped
      have some : shots ≠ [] := fun first => skipped (.inl first)
      have later : filter.isFirst = false := by
        rw [← Bool.not_eq_true, tracks.isFirst opened]
        exact some
      have held := tracks.lastIsBlank opened some
      have closed : ¬Opens blank (shots ++ [shot]) := by
        rw [opens_append_iff]
        rintro (opens | ⟨sampled, _⟩)
        next => exact shut opens
        next => exact skipped sampled
      refine ⟨false, filter, ?_, iff_of_false nofun closed,
        .of_lastIsBlank tracks.color opened later held closed⟩
      rw [Checked.ok_bind, if_pos held]
      rfl

theorem step {call : FilterCall}
    (laid : ∀ shot, call = .check shot → shot.frame.Layout shot.store) :
    ∃ answer next, filter.step call = .ok (answer, next) ∧
      Answers blank (call.extend shots) call answer ∧ next.Tracks blank (call.extend shots) := by
  cases call with
  | reset => exact ⟨none, filter.reset, rfl, rfl, tracks.color ▸ fresh_tracks filter.blank⟩
  | check shot =>
    obtain ⟨delivers, next, checked, exact, tracked⟩ := tracks.check (laid shot rfl)
    exact ⟨some delivers, next, by rw [BlankFilter.step, checked]; rfl, ⟨delivers, rfl, exact⟩, tracked⟩

theorem run (laid : ∀ shot, FilterCall.check shot ∈ calls → shot.frame.Layout shot.store) :
    ∃ answers last, filter.run calls = .ok (answers, last) ∧ answers.length = calls.length ∧
      ∀ index call, calls[index]? = some call → ∃ answer, answers[index]? = some answer ∧
        Answers blank ((calls.take (index + 1)).foldl FilterCall.extend shots) call answer := by
  induction calls generalizing filter shots with
  | nil =>
    refine ⟨[], filter, rfl, rfl, ?_⟩
    intro index call called
    rw [List.getElem?_nil] at called
    cases called
  | cons call calls ih =>
    obtain ⟨answer, next, stepped, told, tracked⟩ :=
      tracks.step fun shot same => laid shot (same ▸ .head _)
    obtain ⟨answers, last, ran, length, each⟩ := ih tracked fun shot member => laid shot (.tail _ member)
    refine ⟨answer :: answers, last, ?_, congrArg (· + 1) length, ?_⟩
    next =>
      rw [BlankFilter.run, stepped]
      exact Checked.bind_eq_ok.mpr ⟨_, rfl, Checked.bind_eq_ok.mpr ⟨_, ran, rfl⟩⟩
    next =>
      intro index other called
      cases index with
      | zero =>
        cases called
        exact ⟨answer, rfl, told⟩
      | succ index => exact each index other called

end Tracks

theorem opens_sinceReset {first last : Nat}
    (opens : Opens blank (FilterCall.sinceReset (calls.take (first + 1))))
    (ordered : first ≤ last) (within : last < calls.length)
    (unbroken : ∀ index, first ≤ index → index ≤ last → calls[index]? ≠ some .reset) :
    Opens blank (FilterCall.sinceReset (calls.take (last + 1))) := by
  induction ordered with
  | refl => exact opens
  | @step last lower ih =>
    have kept := ih (Nat.lt_of_succ_lt within) fun index above below =>
      unbroken index above (Nat.le_succ_of_le below)
    have called := List.getElem?_eq_getElem within
    rw [FilterCall.sinceReset_succ called]
    cases call : calls[last + 1] with
    | reset => exact absurd (call ▸ called) (unbroken _ (Nat.le_succ_of_le lower) (Nat.le_refl _))
    | check shot => exact opens_append_iff.mpr (.inl kept)

theorem run_delivers (blank : Color)
    (laid : ∀ shot, FilterCall.check shot ∈ calls → shot.frame.Layout shot.store) :
    ∃ answers last, (fresh blank).run calls = .ok (answers, last) ∧
      answers.length = calls.length ∧
      (∀ index shot, calls[index]? = some (.check shot) → ∃ delivers : Bool,
        answers[index]? = some (some delivers) ∧
          (delivers = true ↔ Opens blank (FilterCall.sinceReset (calls.take (index + 1))))) ∧
      ∀ first later, first ≤ later → later < calls.length →
        (∀ index, first ≤ index → index ≤ later → calls[index]? ≠ some .reset) →
        answers[first]? = some (some true) → answers[later]? = some (some true) := by
  obtain ⟨answers, last, ran, length, each⟩ := (fresh_tracks blank).run laid
  have checks : ∀ index shot, calls[index]? = some (.check shot) → ∃ delivers : Bool,
      answers[index]? = some (some delivers) ∧
        (delivers = true ↔ Opens blank (FilterCall.sinceReset (calls.take (index + 1)))) := by
    intro index shot called
    obtain ⟨answer, answered, delivers, rfl, exact⟩ := each index (.check shot) called
    exact ⟨delivers, answered, exact⟩
  refine ⟨answers, last, ran, length, checks, ?_⟩
  intro first later ordered within unbroken delivered
  have check {index : Nat} (above : first ≤ index) (below : index ≤ later) :
      ∃ shot, calls[index]? = some (.check shot) := by
    cases call : calls[index] with
    | check shot => exact ⟨shot, call ▸ List.getElem?_eq_getElem _⟩
    | reset => exact absurd (call ▸ List.getElem?_eq_getElem _) (unbroken index above below)
  obtain ⟨shot, called⟩ := check (Nat.le_refl first) ordered
  obtain ⟨laterShot, laterCalled⟩ := check ordered (Nat.le_refl later)
  obtain ⟨delivers, answered, exact⟩ := checks first shot called
  obtain ⟨laterDelivers, laterAnswered, laterExact⟩ := checks later laterShot laterCalled
  cases answered.symm.trans delivered
  have opens := opens_sinceReset (exact.mp rfl) ordered within unbroken
  rw [laterAnswered, laterExact.mpr opens]

def blackAndWhite : Store :=
  ((Store.empty.addBuffer .heap (Bytes.zeros 4)).2.addBuffer .heap #[255, 255, 255, 255]).2

def heldBack : List FilterCall :=
  let black := .check ⟨.onBuffer ⟨1, 1⟩ 4 0, blackAndWhite⟩
  let white := Frame.onBuffer ⟨1, 1⟩ 4 1
  [black, .check ⟨white, blackAndWhite⟩,
    .check ⟨white.withUpdated (.ofRect ⟨0, 0, 1, 1⟩), blackAndWhite⟩, black, .reset, black]

theorem run_delivers_heldBack :
    (∀ shot, FilterCall.check shot ∈ heldBack → shot.frame.Layout shot.store) ∧
    (∃ last, (fresh (.solid 0 0 0)).run heldBack =
      .ok ([some false, some false, some true, some true, none, some false], last)) ∧
    ¬Opens (.solid 0 0 0) (FilterCall.sinceReset (heldBack.take 2)) ∧
    Opens (.solid 0 0 0) (FilterCall.sinceReset (heldBack.take 3)) ∧
    ¬Opens (.solid 0 0 0) (FilterCall.sinceReset (heldBack.take 6)) := by
  have black : (Frame.onBuffer ⟨1, 1⟩ 4 0).Layout blackAndWhite :=
    Frame.layout_onBuffer (by decide) (by decide) (by decide) (by decide) (by decide)
  have white : (Frame.onBuffer ⟨1, 1⟩ 4 1).Layout blackAndWhite :=
    Frame.layout_onBuffer (by decide) (by decide) (by decide) (by decide) (by decide)
  have laid : ∀ shot, FilterCall.check shot ∈ heldBack → shot.frame.Layout shot.store := by
    intro shot member
    simp only [heldBack, List.mem_cons, List.not_mem_nil, FilterCall.check.injEq, reduceCtorEq,
      or_false, false_or] at member
    rcases member with rfl | rfl | rfl | rfl | rfl
    next => exact black
    next => exact white
    next => exact white.withInfo _
    next => exact black
    next => exact black
  obtain ⟨answers, last, ran, _, checks, _⟩ := run_delivers (.solid 0 0 0) laid
  have answered : ∃ last, (fresh (.solid 0 0 0)).run heldBack =
      .ok ([some false, some false, some true, some true, none, some false], last) := ⟨_, rfl⟩
  obtain ⟨_, told⟩ := answered
  cases ran.symm.trans told
  obtain ⟨_, second, closed⟩ := checks 1 _ rfl
  obtain ⟨_, third, opens⟩ := checks 2 _ rfl
  obtain ⟨_, sixth, shut⟩ := checks 5 _ rfl
  cases second
  cases third
  cases sixth
  exact ⟨laid, ⟨_, ran⟩, fun held => Bool.false_ne_true (closed.mpr held), opens.mp rfl,
    fun held => Bool.false_ne_true (shut.mpr held)⟩

end BlankFilter

end ScreenCapture
