import ScreenCapture.Proofs.Cursor.Drawing

set_option autoImplicit false

namespace ScreenCapture

theorem sweep_eq_self {State : Type} {step : Nat → State → Checked State} {count first : Nat}
    {state : State}
    (each : ∀ index, first ≤ index → index < first + count → step index state = .ok state) :
    sweep step count first state = .ok state := by
  induction count generalizing first with
  | zero => rfl
  | succ count ih =>
    rw [sweep, each first (Nat.le_refl _) (by omega), Checked.ok_bind]
    exact ih fun index lower upper => each index (by omega) (by omega)

namespace Plane

def Spares (plane : Plane) (width height : Nat) (bytes : Bytes) : Prop :=
  ∀ index, (∀ x y, x < width → y < height → ¬ plane.Covers x y index) →
    bytes.byte index = plane.bytes.byte index

variable {plane : Plane} {width height x y : Nat} {bytes next : Bytes} {shade : Nat → Nat → Color}

theorem Spares.setColorAt {color : Color} (spares : plane.Spares width height bytes)
    (column : x < width) (row : y < height)
    (set : setColorAt plane.start plane.stride x y color bytes = .ok next) :
    plane.Spares width height next := by
  obtain ⟨offset, began, set⟩ := Checked.bind_eq_ok.mp set
  obtain ⟨line, found, set⟩ := Checked.bind_eq_ok.mp set
  obtain ⟨position, placed, set⟩ := Checked.bind_eq_ok.mp set
  obtain ⟨_, rfl⟩ := address_eq_ok_iff.mp began
  obtain ⟨_, rfl⟩ := twoCuts_eq_ok_iff.mp found
  obtain ⟨fits, rfl⟩ := twoCuts_eq_ok_iff.mp placed
  cases set
  intro index none
  rw [Bytes.byte_setColor _ _ _ fits, if_neg]
  next => exact spares index none
  next =>
    intro within
    refine none x y column row ?_
    simp only [Covers, cell, bytesPerPixel] at within ⊢
    omega

theorem outline_spares (drawn : outline width height plane = .ok bytes) :
    plane.Spares width height bytes := by
  refine sweep_leaves (fun _ bytes => plane.Spares width height bytes) height (fun _ _ => rfl) drawn
    fun y bytes next _ row spares swept => ?_
  refine sweep_leaves (fun _ bytes => plane.Spares width height bytes) width spares swept
    fun x bytes next _ column spares stepped => ?_
  obtain ⟨color, _, stepped⟩ := Checked.bind_eq_ok.mp stepped
  split at stepped
  next =>
    cases stepped
    exact spares
  next =>
    obtain ⟨beside, _, stepped⟩ := Checked.bind_eq_ok.mp stepped
    cases beside with
    | true => exact spares.setColorAt (by omega) (by omega) stepped
    | false =>
      cases stepped
      exact spares

theorem outlined_settled : ¬ (outlined width height shade x y = .clear ∧
    Beside width height (fun x y => outlined width height shade x y = .black) x y) := by
  rintro ⟨clear, beside⟩
  simp only [outlined_eq_black_iff] at beside
  unfold outlined at clear
  split at clear
  next => cases clear
  next apart => exact apart ⟨clear, beside⟩

theorem outline_settled (canvas : plane.Canvas width height)
    (shows : plane.Shows width height shade bytes)
    (settled : ∀ x y, x < width → y < height →
      ¬ (shade x y = .clear ∧ Beside width height (fun x y => shade x y = .black) x y)) :
    outline width height ⟨bytes, plane.start, plane.stride⟩ = .ok bytes := by
  refine sweep_eq_self fun y _ row => sweep_eq_self fun x _ column => ?_
  have line : y < height := by omega
  have place : x < width := by omega
  rw [outlinePixel_eq canvas.room shows place line, if_neg (settled x y place line)]

theorem outline_twice (plane : Plane) (width height : Nat)
    (canvas : 0 < height → plane.Canvas width height) : ∃ bytes, outline width height plane = .ok bytes ∧
      plane.Shows width height (outlined width height plane.pixel) bytes ∧
      plane.Spares width height bytes ∧
      outline width height ⟨bytes, plane.start, plane.stride⟩ = .ok bytes := by
  rcases Nat.eq_zero_or_pos height with rfl | tall
  next => exact ⟨plane.bytes, rfl, ⟨rfl, fun _ _ _ row => by omega⟩, fun _ _ => rfl, rfl⟩
  next =>
    obtain ⟨bytes, drawn, shows⟩ := outline_shows (canvas tall)
    exact ⟨bytes, drawn, shows, outline_spares drawn,
      outline_settled (canvas tall) shows fun _ _ _ _ => outlined_settled⟩

end Plane

def Point.neighbours (point : Point) : List Point :=
  [⟨point.x, point.y - 1⟩, ⟨point.x, point.y + 1⟩, ⟨point.x - 1, point.y⟩, ⟨point.x + 1, point.y⟩]

namespace Frame

def OnOutline (frame : Frame) (store : Store) (point : Point) : Prop :=
  frame.view store point = .clear ∧ ∃ other ∈ point.neighbours,
    frame.bounds.contains other = true ∧ frame.view store other = .black

structure Outlined (frame : Frame) (store next : Store) : Prop where
  edge : ∀ point, frame.bounds.contains point = true → frame.OnOutline store point →
    frame.view next point = .white
  rest : ∀ point, frame.bounds.contains point = true → ¬ frame.OnOutline store point →
    frame.view next point = frame.view store point
  kept : ∀ index, (∀ point, frame.bounds.contains point = true → ¬ frame.Covers point index) →
    (next.bytes frame.buffer).byte index = (store.bytes frame.buffer).byte index
  length : (next.bytes frame.buffer).size = (store.bytes frame.buffer).size
  only : ∃ bytes, next = store.setBytes frame.buffer bytes

variable {frame : Frame} {store : Store}

theorem exists_cell_of_contains {point : Point} (inside : frame.bounds.contains point = true) :
    ∃ x y : Nat, point = ⟨x, y⟩ ∧ x < frame.size.width.toNat ∧ y < frame.size.height.toNat := by
  have edges := bounds_contains_iff.mp inside
  obtain ⟨px, py⟩ := point
  dsimp only at edges
  refine ⟨px.toNat, py.toNat, ?_, by omega, by omega⟩
  rw [Int.toNat_of_nonneg edges.1.1, Int.toNat_of_nonneg edges.2.1]

theorem contains_cell {x y : Nat} (column : x < frame.size.width.toNat)
    (row : y < frame.size.height.toNat) : frame.bounds.contains ⟨x, y⟩ = true := by
  rw [bounds_contains_iff]
  dsimp only
  omega

theorem onOutline_iff {x y : Nat} (column : x < frame.size.width.toNat)
    (row : y < frame.size.height.toNat) : frame.OnOutline store ⟨x, y⟩ ↔
      (frame.plane store).pixel x y = .clear ∧ Plane.Beside frame.size.width.toNat
        frame.size.height.toNat (fun x y => (frame.plane store).pixel x y = .black) x y := by
  -- A neighbour that there is, in the numbers of columns and rows.
  have at_cell (px py : Int) (there : Prop) (nx ny : Nat)
      (spot : there → px = nx ∧ py = ny)
      (known : there ↔ frame.bounds.contains ⟨px, py⟩ = true) :
      frame.bounds.contains ⟨px, py⟩ = true ∧ frame.view store ⟨px, py⟩ = .black ↔
        there ∧ (frame.plane store).pixel nx ny = .black := by
    rw [← known]
    refine and_congr_right fun here => ?_
    rw [(spot here).1, (spot here).2]
    rfl
  refine and_congr_right fun _ => ?_
  simp only [Point.neighbours, List.mem_cons, List.not_mem_nil, or_false, exists_eq_or_imp,
    exists_eq_left]
  refine or_congr ?_ (or_congr ?_ (or_congr ?_ ?_))
  all_goals
    refine at_cell _ _ _ _ _ (fun _ => by omega) ?_
    rw [bounds_contains_iff]
    dsimp only
    omega

theorem outlined_of_shows {bytes : Bytes} (shows : (frame.plane store).Shows frame.size.width.toNat
      frame.size.height.toNat (Plane.outlined frame.size.width.toNat frame.size.height.toNat
        (frame.plane store).pixel) bytes)
    (spares : (frame.plane store).Spares frame.size.width.toNat frame.size.height.toNat bytes) :
    frame.Outlined store (store.setBytes frame.buffer bytes) := by
  have same := store.bytes_setBytes_self frame.buffer shows.size
  have view {x y : Nat} (column : x < frame.size.width.toNat) (row : y < frame.size.height.toNat) :
      frame.view (store.setBytes frame.buffer bytes) ⟨x, y⟩ = Plane.outlined frame.size.width.toNat
        frame.size.height.toNat (frame.plane store).pixel x y :=
    (congrArg (fun bytes => Bytes.color bytes _) same).trans (shows.pixels x y column row)
  refine ⟨fun point inside edge => ?_, fun point inside rest => ?_, fun index none => ?_, ?_, _, rfl⟩
  next =>
    obtain ⟨x, y, rfl, column, row⟩ := exists_cell_of_contains inside
    rw [view column row]
    exact if_pos ((onOutline_iff column row).mp edge)
  next =>
    obtain ⟨x, y, rfl, column, row⟩ := exists_cell_of_contains inside
    rw [view column row]
    exact if_neg fun edge => rest ((onOutline_iff column row).mpr edge)
  next =>
    rw [same]
    exact spares index fun x y column row => none ⟨x, y⟩ (contains_cell column row)
  next =>
    rw [same]
    exact shows.size

theorem outline_exact (layout : frame.Layout store) (writable : frame.isWritable store = true) :
    ∃ next, frame.outline store = .ok next ∧ frame.Outlined store next ∧
      frame.outline next = .ok next := by
  obtain ⟨bytes, drawn, shows, spares, again⟩ := (frame.plane store).outline_twice
    frame.size.width.toNat frame.size.height.toNat fun tall => ⟨layout.hasRoom (by omega), layout.rows⟩
  have same := store.bytes_setBytes_self frame.buffer shows.size
  refine ⟨_, edit_eq_ok_iff.mpr ⟨writable, bytes, drawn, rfl⟩, outlined_of_shows shows spares, ?_⟩
  have free := (Rewritten.setBytes shows.size).isWritable_eq.trans writable
  refine edit_eq_ok_iff.mpr ⟨free, bytes, ?_, (Store.setBytes_setBytes ..).symm⟩
  rw [plane, same]
  exact again

def fourShades : Store :=
  ⟨#[⟨.heap, #[0, 0, 0, 255, 0, 0, 0, 0, 9, 9, 9, 9, 0, 0, 0, 0, 1, 2, 3, 4, 0, 0, 0, 255]⟩], #[], #[]⟩

theorem outline_exact_fourShades : ∃ frame next, frame = onBuffer ⟨2, 2⟩ 12 0 ∧
    (frame.Layout fourShades ∧ frame.isWritable fourShades = true) ∧
    frame.outline fourShades = .ok next ∧ frame.outline next = .ok next ∧
    frame.view next ⟨0, 0⟩ = .black ∧ frame.view next ⟨1, 0⟩ = .white ∧
    frame.view next ⟨0, 1⟩ = .white ∧ frame.view next ⟨1, 1⟩ = ⟨1, 2, 3, 4⟩ := by
  have layout : (onBuffer ⟨2, 2⟩ 12 0).Layout fourShades :=
    ⟨by decide, by decide, by decide, by decide, by decide, by decide, by decide⟩
  obtain ⟨next, drawn, outlined, again⟩ := outline_exact layout rfl
  exact ⟨_, next, rfl, ⟨layout, rfl⟩, drawn, again,
    outlined.rest ⟨0, 0⟩ rfl fun edge => absurd edge.1 (by decide),
    outlined.edge ⟨1, 0⟩ rfl ⟨rfl, ⟨0, 0⟩, by decide, rfl, rfl⟩,
    outlined.edge ⟨0, 1⟩ rfl ⟨rfl, ⟨0, 0⟩, by decide, rfl, rfl⟩,
    outlined.rest ⟨1, 1⟩ rfl fun edge => absurd edge.1 (by decide)⟩

end Frame

end ScreenCapture
