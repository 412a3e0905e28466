import ScreenCapture.Proofs.Cursor.Image
import ScreenCapture.Proofs.Ownership.Writers

set_option autoImplicit false

namespace ScreenCapture

namespace Color

def SameChannels (color other : Color) : Prop :=
  other.blue = color.blue ∧ other.green = color.green ∧ other.red = color.red

def AlphaAgrees (mask color other : Color) : Prop :=
  if mask.isMasked then (other = .clear ↔ color = .clear) else other.alpha = color.alpha

instance (mask color other : Color) : Decidable (AlphaAgrees mask color other) :=
  inferInstanceAs
    (Decidable (if mask.isMasked then (other = .clear ↔ color = .clear) else other.alpha = color.alpha))

def MayShow (color shown : Color) : Prop := shown = color ∨ color = .clear ∧ shown = .white

variable {mask mask' color other shown shown' : Color}

theorem SameChannels.eq (same : color.SameChannels other) (alpha : other.alpha = color.alpha) :
    other = color := by
  obtain ⟨blue, green, red⟩ := same
  obtain ⟨_, _, _, _⟩ := color
  obtain ⟨_, _, _, _⟩ := other
  simp only at blue green red alpha
  rw [blue, green, red, alpha]

theorem SameChannels.isMasked_eq (masks : mask.SameChannels mask') : mask'.isMasked = mask.isMasked := by
  obtain ⟨blue, green, red⟩ := masks
  rw [isMasked, isMasked, blue, green, red]

theorem scaleChannel_zero (alpha : UInt8) : scaleChannel 0 alpha = 0 := by
  rw [scaleChannel, show (0 : UInt8).toNat = 0 from rfl, Nat.zero_mul, Nat.zero_div]
  rfl

theorem SameChannels.premultiply_ne (same : clear.SameChannels color) : color.premultiply ≠ .white := by
  intro equal
  have blue := congrArg Color.blue equal
  rw [premultiply, same.1] at blue
  dsimp only [clear] at blue
  rw [scaleChannel_zero] at blue
  exact absurd blue (by decide)

theorem SameChannels.symm (same : color.SameChannels other) : other.SameChannels color :=
  ⟨same.1.symm, same.2.1.symm, same.2.2.symm⟩

theorem SameChannels.eq_of_premultiply (same : color.SameChannels other) (shows : color.MayShow shown)
    (shows' : other.MayShow shown') (equal : shown'.premultiply = shown.premultiply) :
    other = color := by
  have white : white.premultiply = white := premultiply_opaque 255 255 255
  obtain rfl | ⟨unlit, rfl⟩ := shows
  next =>
    obtain rfl | ⟨unlit', rfl⟩ := shows'
    next => exact same.eq (show shown'.premultiply.alpha = shown.premultiply.alpha by rw [equal])
    next =>
      rw [unlit'] at same
      exact absurd (equal.symm.trans white) same.symm.premultiply_ne
  next =>
    obtain rfl | ⟨unlit', _⟩ := shows'
    next =>
      rw [unlit] at same
      exact absurd (equal.trans white) same.premultiply_ne
    next => rw [unlit, unlit']

section Masks

variable (masks : mask.SameChannels mask')

include masks

theorem AlphaAgrees.isInverting_eq (agrees : AlphaAgrees mask color other) :
    mask'.isInverting other = mask.isInverting color := by
  rw [isInverting, isInverting, masks.isMasked_eq]
  rw [AlphaAgrees] at agrees
  cases masked : mask.isMasked with
  | true =>
    rw [if_pos masked] at agrees
    rw [Bool.true_and, Bool.true_and, Bool.eq_iff_iff, bne_iff_ne, bne_iff_ne]
    exact not_congr agrees
  | false => rw [Bool.false_and, Bool.false_and]

variable (same : color.SameChannels other)

include same

theorem unmask_sameChannels : (mask.unmask color).SameChannels (mask'.unmask other) := by
  rw [unmask, unmask, masks.isMasked_eq]
  split
  next => exact same
  next => split <;> split <;> exact ⟨rfl, rfl, rfl⟩

theorem unmask_eq_iff : mask'.unmask other = mask.unmask color ↔ AlphaAgrees mask color other := by
  rw [unmask, unmask, masks.isMasked_eq, AlphaAgrees]
  cases mask.isMasked with
  | true =>
    have apart : black ≠ clear := by decide
    by_cases unlit : color = .clear
    next => by_cases unlit' : other = .clear <;> simp [unlit, unlit', apart]
    next => by_cases unlit' : other = .clear <;> simp [unlit, unlit', apart.symm]
  | false =>
    simp only [Bool.not_false, if_true, Bool.false_eq_true, if_false]
    constructor
    next =>
      intro equal
      exact (UInt8.xor_left_inj 255).mp (congrArg Color.alpha equal)
    next =>
      intro alpha
      rw [same.eq alpha]

end Masks

end Color

namespace Bytes

variable {bytes other : Bytes}

theorem color_sameChannels (size : other.size = bytes.size)
    (same : ∀ index < bytes.size, index % 4 ≠ 3 → other.byte index = bytes.byte index)
    {start : Nat} (aligned : start % 4 = 0) : (bytes.color start).SameChannels (other.color start) := by
  have equal (index : Nat) (channel : index % 4 ≠ 3) : other.byte index = bytes.byte index := by
    by_cases known : index < bytes.size
    next => exact same index known channel
    next =>
      have behind : ¬ index < other.size := size ▸ known
      simp only [byte, Array.getD, known, behind, dif_neg, not_false_eq_true]
  exact ⟨equal start (by omega), equal (start + 1) (by omega), equal (start + 2) (by omega)⟩

end Bytes

namespace Plane

theorem cell_aligned {plane : Plane} (start : bytesPerPixel ∣ plane.start)
    (stride : bytesPerPixel ∣ plane.stride) (x y : Nat) : plane.cell x y % 4 = 0 :=
  Nat.mod_eq_zero_of_dvd
    (Nat.dvd_add start (Nat.dvd_add (stride.mul_left y) (Nat.dvd_mul_left bytesPerPixel x)))

structure IsPacked (plane : Plane) (width height : Nat) : Prop where
  start : plane.start = 0
  stride : plane.stride = width * bytesPerPixel
  size : plane.bytes.size = height * plane.stride

theorem Shows.ext {plane : Plane} {width height : Nat} {shade : Nat → Nat → Color} {bytes other : Bytes}
    (packed : plane.IsPacked width height) (shows : plane.Shows width height shade bytes)
    (otherShows : plane.Shows width height shade other) : other = bytes := by
  refine Bytes.ext_byte (otherShows.size.trans shows.size.symm) fun index known => ?_
  rw [shows.size, packed.size, packed.stride] at known
  have wide : 0 < width * bytesPerPixel := Nat.pos_of_mul_pos_left (Nat.zero_lt_of_lt known)
  have row : index / (width * bytesPerPixel) < height :=
    Nat.div_lt_of_lt_mul (Nat.mul_comm _ _ ▸ known)
  have within := Nat.mod_lt index wide
  have whole := Nat.div_add_mod' index (width * bytesPerPixel)
  have column : index % (width * bytesPerPixel) / bytesPerPixel < width :=
    Nat.div_lt_of_lt_mul (Nat.mul_comm _ _ ▸ within)
  have parts := Nat.div_add_mod' (index % (width * bytesPerPixel)) bytesPerPixel
  have step : index % (width * bytesPerPixel) % bytesPerPixel < 4 := Nat.mod_lt _ (by decide)
  have equal := (otherShows.pixels _ _ column row).trans (shows.pixels _ _ column row).symm
  have byte := (Bytes.color_eq_iff ..).mp equal _ step
  have place : plane.cell (index % (width * bytesPerPixel) / bytesPerPixel)
      (index / (width * bytesPerPixel)) + index % (width * bytesPerPixel) % bytesPerPixel = index := by
    rw [cell, packed.start, packed.stride]
    omega
  rwa [place] at byte

end Plane

namespace Frame

variable {frame : Frame} {store next : Store}

theorem Writes.release_eq (own : frame.groups = []) (writes : frame.Writes store next) :
    frame.release next = frame.release store := by
  induction writes with
  | refl => rfl
  | tail _ last ih =>
    obtain ⟨change, edited⟩ := last
    obtain ⟨_, bytes, _, rfl⟩ := edit_eq_ok_iff.mp edited
    rw [← ih, release, release, own]
    exact Store.setBytes_setBytes ..

theorem createOnHeap_isPacked {size : Size} (made : createOnHeap size store = (.ok frame, next)) :
    frame.groups = [] ∧ (frame.plane next).IsPacked size.width.toNat size.height.toNat := by
  obtain ⟨_, _, rfl, rfl⟩ := createOnHeap_eq_ok made
  refine ⟨rfl, rfl, rfl, ?_⟩
  have filled := bytes_addBuffer_new store .heap (Bytes.zeros size.packedBytes)
  exact (congrArg Array.size filled).trans ((Bytes.size_zeros _).trans (Nat.mul_comm _ _))

end Frame

namespace CursorBitmaps

variable {bitmaps other : CursorBitmaps} {image : Frame} {store reserved : Store} {x y : Nat}

structure SameButAlpha (bitmaps other : CursorBitmaps) : Prop where
  width : other.width = bitmaps.width
  height : other.height = bitmaps.height
  hotspot : other.hotspot = bitmaps.hotspot
  own : bitmaps.colors = none
  otherOwn : other.colors = none
  size : other.mask.size = bitmaps.mask.size
  channels : ∀ index < bitmaps.mask.size, index % 4 ≠ 3 →
    other.mask.byte index = bitmaps.mask.byte index

def AlphaAgrees (bitmaps other : CursorBitmaps) (x y : Nat) : Prop :=
  Color.AlphaAgrees (bitmaps.maskAt x y) (bitmaps.colorAt x y) (other.colorAt x y)

instance (bitmaps other : CursorBitmaps) (x y : Nat) : Decidable (bitmaps.AlphaAgrees other x y) :=
  inferInstanceAs (Decidable (Color.AlphaAgrees _ _ _))

namespace SameButAlpha

variable (same : bitmaps.SameButAlpha other)

include same

theorem imageHeight : other.imageHeight = bitmaps.imageHeight := by
  rw [CursorBitmaps.imageHeight, CursorBitmaps.imageHeight, same.own, same.otherOwn, same.height]

theorem imageSize : other.imageSize = bitmaps.imageSize := by
  rw [CursorBitmaps.imageSize, CursorBitmaps.imageSize, same.width, same.imageHeight]

theorem check : other.check = bitmaps.check := by
  simp only [CursorBitmaps.check, checkColors, maskBytes, rowBytes, same.width, same.height, same.own,
    same.otherOwn, same.size, same.imageHeight]

theorem typed (typed : bitmaps.Typed) : other.Typed where
  width := same.width ▸ typed.width
  height := same.height ▸ typed.height
  mask := same.size ▸ typed.mask
  colors colors member := by
    rw [same.otherOwn] at member
    cases member

theorem maskAt (x y : Nat) : (bitmaps.maskAt x y).SameChannels (other.maskAt x y) := by
  unfold CursorBitmaps.maskAt
  rw [same.width]
  exact Bytes.color_sameChannels same.size same.channels
    (Plane.cell_aligned (Nat.dvd_zero _) (Nat.dvd_mul_left ..) x y)

theorem colorAt (x y : Nat) : (bitmaps.colorAt x y).SameChannels (other.colorAt x y) := by
  unfold CursorBitmaps.colorAt colorPlane
  rw [same.own, same.otherOwn]
  dsimp only
  rw [rowBytes, rowBytes, same.width, same.imageHeight]
  have row : bytesPerPixel ∣ bitmaps.width.toNat * bytesPerPixel := Nat.dvd_mul_left ..
  exact Bytes.color_sameChannels same.size same.channels (Plane.cell_aligned (row.mul_right _) row x y)

theorem unmask_eq_iff : (other.maskAt x y).unmask (other.colorAt x y) =
    (bitmaps.maskAt x y).unmask (bitmaps.colorAt x y) ↔ bitmaps.AlphaAgrees other x y :=
  Color.unmask_eq_iff (same.maskAt x y) (same.colorAt x y)

theorem inverts_iff (agree : ∀ x y, bitmaps.InImage x y → bitmaps.AlphaAgrees other x y) :
    other.Inverts ↔ bitmaps.Inverts := by
  unfold Inverts Somewhere
  rw [same.width, same.imageHeight]
  refine Plane.Somewhere.congr fun x y column row => ?_
  rw [← isInverting_iff, ← isInverting_iff, (agree x y ⟨column, row⟩).isInverting_eq (same.maskAt x y)]

end SameButAlpha

section Mono

variable (own : bitmaps.colors = none)

include own

theorem not_isTranslucent : ¬ bitmaps.IsTranslucent := by
  rintro ⟨colored, _⟩
  rw [own] at colored
  cases colored

theorem rawAt_mayShow (x y : Nat) :
    Color.MayShow ((bitmaps.maskAt x y).unmask (bitmaps.colorAt x y)) (bitmaps.rawAt x y) := by
  rw [rawAt, if_neg (not_isTranslucent own)]
  split
  next =>
    rw [Plane.outlined]
    split
    next edge => exact .inr ⟨edge.1, rfl⟩
    next => exact .inl rfl
  next => exact .inl rfl

end Mono

theorem draw_of_unmask (own : bitmaps.colors = none) {copied unmasked : Store} {inverted : Bool}
    (copying : image.copyRows bitmaps.colorPlane image.bounds reserved = .ok copied)
    (unmasking : image.unmask bitmaps.mask copied = .ok (inverted, unmasked)) :
    bitmaps.draw image reserved =
      (if inverted then image.outline unmasked else .ok unmasked) >>= image.premultiply := by
  have plain : bitmaps.hasAlpha image copied = .ok false := by
    rw [hasAlpha, own]
    rfl
  rw [draw, copying, Checked.ok_bind, plain, Checked.ok_bind, applyMask, unmasking]
  rfl

section Stages

variable (checked : bitmaps.check = .ok ()) (typed : bitmaps.Typed) {shade : Nat → Nat → Color}
  (displays : image.Displays bitmaps.width.toNat bitmaps.imageHeight.toNat shade reserved)

include checked typed displays

theorem exists_unmask : ∃ copied bytes,
    image.copyRows bitmaps.colorPlane image.bounds reserved = .ok copied ∧
    image.unmask bitmaps.mask copied =
      .ok (decide bitmaps.Inverts, reserved.setBytes image.buffer bytes) ∧
    (image.plane reserved).Shows bitmaps.width.toNat bitmaps.imageHeight.toNat
      (fun x y => (bitmaps.maskAt x y).unmask (bitmaps.colorAt x y)) bytes := by
  obtain ⟨bytes, copying, shows⟩ := displays.copyRows_shows (colorRoom checked typed)
  have copied := displays.setBytes shows
  obtain ⟨unmasked, unmasking, shown⟩ := copied.unmask_shows (maskRoom checked typed)
  have same : ((reserved.setBytes image.buffer bytes).bytes image.buffer) = bytes :=
    displays.layout.fits.bytes_setBytes displays.solid bytes
  have inverts : (Plane.Somewhere bitmaps.width.toNat bitmaps.imageHeight.toNat fun x y =>
      ((Plane.packed bitmaps.mask bitmaps.width.toNat).pixel x y).isInverting
        (bitmaps.colorPlane.pixel x y) = true) ↔ bitmaps.Inverts :=
    Plane.Somewhere.congr fun x y _ _ => isInverting_iff
  rw [decide_eq_decide.mpr inverts, Store.setBytes_setBytes] at unmasking
  refine ⟨_, unmasked, copying, unmasking, ?_, shown.pixels⟩
  rw [shown.size]
  exact (congrArg Array.size same).trans shows.size

theorem SameButAlpha.draw_eq (same : bitmaps.SameButAlpha other)
    (packed : (image.plane reserved).IsPacked bitmaps.width.toNat bitmaps.imageHeight.toNat)
    (agree : ∀ x y, bitmaps.InImage x y → bitmaps.AlphaAgrees other x y) :
    other.draw image reserved = bitmaps.draw image reserved := by
  have displays' : image.Displays other.width.toNat other.imageHeight.toNat shade reserved := by
    rwa [same.width, same.imageHeight]
  obtain ⟨copied, bytes, copying, unmasking, shows⟩ := exists_unmask checked typed displays
  obtain ⟨copied', bytes', copying', unmasking', shows'⟩ :=
    exists_unmask (same.check.trans checked) (same.typed typed) displays'
  rw [same.width, same.imageHeight] at shows'
  have equal : bytes' = bytes := shows.ext packed <| shows'.congr fun x y column row =>
    (same.unmask_eq_iff.mpr (agree x y ⟨column, row⟩)).symm
  rw [decide_eq_decide.mpr (same.inverts_iff agree), equal] at unmasking'
  rw [draw_of_unmask same.own copying unmasking, draw_of_unmask same.otherOwn copying' unmasking']

end Stages

namespace SameButAlpha

variable (same : bitmaps.SameButAlpha other) (typed : bitmaps.Typed)

include same typed

theorem exists_draw (checked : bitmaps.check = .ok ()) (store : Store) :
    ∃ image reserved drawn drawn',
      (image.groups = [] ∧ image.size = bitmaps.imageSize) ∧
      (bitmaps.draw image reserved = .ok drawn ∧ other.draw image reserved = .ok drawn') ∧
      ((∀ x y, bitmaps.InImage x y → bitmaps.AlphaAgrees other x y) → drawn' = drawn) ∧
      (∀ x y, bitmaps.InImage x y →
        image.view drawn ⟨x, y⟩ = (bitmaps.rawAt x y).premultiply ∧
        image.view drawn' ⟨x, y⟩ = (other.rawAt x y).premultiply) ∧
      bitmaps.cursor store = .ok (Cursor.ofImage image bitmaps.hotspot drawn) ∧
      other.cursor store = .ok (Cursor.ofImage image bitmaps.hotspot drawn') := by
  have checked' := same.check.trans checked
  have typed' := same.typed typed
  obtain ⟨image, reserved, shade, made, size, displays⟩ := createOnHeap_displays checked typed
  obtain ⟨own, packed⟩ := Frame.createOnHeap_isPacked made
  have made' : Frame.createOnHeap other.imageSize store = (.ok image, reserved) :=
    same.imageSize.symm ▸ made
  have displays' : image.Displays other.width.toNat other.imageHeight.toNat shade reserved := by
    rwa [same.width, same.imageHeight]
  obtain ⟨drawn, drawing, shown⟩ :=
    draw_displays (maskRoom checked typed) displays (colorRoom checked typed)
  obtain ⟨drawn', drawing', shown'⟩ :=
    draw_displays (maskRoom checked' typed') displays' (colorRoom checked' typed')
  rw [same.width, same.imageHeight] at shown'
  refine ⟨image, reserved, drawn, drawn', ⟨own, size⟩, ⟨drawing, drawing'⟩, fun agree => ?_,
    fun x y inside => ⟨shown.pixels x y inside.1 inside.2, shown'.pixels x y inside.1 inside.2⟩,
    cursor_of_ok checked made drawing, same.hotspot ▸ cursor_of_ok checked' made' drawing'⟩
  have equal := same.draw_eq checked typed displays packed agree
  rw [drawing, drawing', Except.ok.injEq] at equal
  exact equal

theorem cursor_eq (store : Store)
    (agree : bitmaps.Usable → ∀ x y, bitmaps.InImage x y → bitmaps.AlphaAgrees other x y) :
    other.cursor store = bitmaps.cursor store := by
  cases checked : bitmaps.check with
  | error reason => rw [cursor_of_error checked, cursor_of_error (same.check.trans checked)]
  | ok _ =>
    obtain ⟨image, reserved, drawn, drawn', ⟨own, size⟩, ⟨drawing, drawing'⟩, equal, _, ran, ran'⟩ :=
      same.exists_draw typed checked store
    rw [ran, ran', Cursor.ofImage, Cursor.ofImage]
    cases hotspot : Cursor.checkHotspot image bitmaps.hotspot with
    | error refusal =>
      have gone := (Frame.draw_writes drawing).release_eq own
      have gone' := (Frame.draw_writes drawing').release_eq own
      dsimp only
      rw [gone, gone']
    | ok _ => rw [equal (agree ((checkHotspot_iff_usable checked size).mp hotspot))]

theorem cursor_tells (store : Store) (usable : bitmaps.Usable) : ∃ image next next',
    bitmaps.cursor store = .ok (.ok ⟨some image, bitmaps.hotspot⟩, next) ∧
    other.cursor store = .ok (.ok ⟨some image, bitmaps.hotspot⟩, next') ∧
    ∀ x y, bitmaps.InImage x y → image.view next' ⟨x, y⟩ = image.view next ⟨x, y⟩ →
      bitmaps.AlphaAgrees other x y := by
  have checked := (usable_iff.mp usable).1
  obtain ⟨image, reserved, drawn, drawn', ⟨_, size⟩, _, _, shown, ran, ran'⟩ :=
    same.exists_draw typed checked store
  have hotspot := (checkHotspot_iff_usable checked size).mpr usable
  rw [Cursor.ofImage, hotspot] at ran ran'
  refine ⟨image, drawn, drawn', ran, ran', fun x y inside equal => same.unmask_eq_iff.mp ?_⟩
  obtain ⟨view, view'⟩ := shown x y inside
  rw [view, view'] at equal
  exact (Color.unmask_sameChannels (same.maskAt x y) (same.colorAt x y)).eq_of_premultiply
    (rawAt_mayShow same.own x y) (rawAt_mayShow same.otherOwn x y) equal

end SameButAlpha

theorem cursor_alpha (typed : bitmaps.Typed) (same : bitmaps.SameButAlpha other) (store : Store) :
    (other.cursor store = bitmaps.cursor store ↔
      (bitmaps.Usable → ∀ x y, bitmaps.InImage x y → bitmaps.AlphaAgrees other x y)) ∧
    (bitmaps.Usable → ∃ image next next',
      bitmaps.cursor store = .ok (.ok ⟨some image, bitmaps.hotspot⟩, next) ∧
      other.cursor store = .ok (.ok ⟨some image, bitmaps.hotspot⟩, next') ∧
      ∀ x y, bitmaps.InImage x y → image.view next' ⟨x, y⟩ = image.view next ⟨x, y⟩ →
        bitmaps.AlphaAgrees other x y) := by
  refine ⟨⟨fun equal usable x y inside => ?_, same.cursor_eq typed store⟩,
    same.cursor_tells typed store⟩
  obtain ⟨image, next, next', ran, ran', tells⟩ := same.cursor_tells typed store usable
  rw [ran, ran'] at equal
  cases equal
  exact tells x y inside rfl

def halfInvertingTinted : CursorBitmaps :=
  { halfInverting with mask := #[255, 255, 255, 9, 255, 255, 255, 255, 0, 0, 0, 0, 255, 255, 255, 128] }

theorem cursor_alpha_halfInverting : halfInverting.Typed ∧
    halfInverting.SameButAlpha halfInvertingTinted ∧
    halfInvertingTinted.cursor .empty = halfInverting.cursor .empty := by
  have typed : halfInverting.Typed := ⟨by decide, by decide, by decide, by decide⟩
  have same : halfInverting.SameButAlpha halfInvertingTinted :=
    ⟨rfl, rfl, rfl, rfl, rfl, rfl, by decide⟩
  have agree : ∀ y < 1, ∀ x < 2, halfInverting.AlphaAgrees halfInvertingTinted x y := by decide
  exact ⟨typed, same, (cursor_alpha typed same .empty).1.mpr fun _ x y inside =>
    agree y inside.2 x inside.1⟩

def seeThrough : CursorBitmaps where
  width := 1
  height := 2
  mask := #[255, 255, 255, 0, 0, 0, 0, 0]
  colors := none
  hotspot := .zero

def seeThroughTinted : CursorBitmaps := { seeThrough with mask := #[255, 255, 255, 0, 0, 0, 0, 255] }

theorem cursor_tinted : seeThrough.Typed ∧ seeThrough.SameButAlpha seeThroughTinted ∧
    ∃ image next next',
      seeThrough.cursor .empty = .ok (.ok ⟨some image, .zero⟩, next) ∧
      seeThroughTinted.cursor .empty = .ok (.ok ⟨some image, .zero⟩, next') ∧
      image.view next ⟨0, 0⟩ = .clear ∧ image.view next' ⟨0, 0⟩ = .black := by
  have typed : seeThrough.Typed := ⟨by decide, by decide, by decide, by decide⟩
  have same : seeThrough.SameButAlpha seeThroughTinted := ⟨rfl, rfl, rfl, rfl, rfl, rfl, by decide⟩
  have usable : seeThrough.Usable :=
    ⟨by decide, by decide, by decide, by decide, by decide, by decide, by decide⟩
  have checked := (usable_iff.mp usable).1
  obtain ⟨image, reserved, drawn, drawn', ⟨_, size⟩, _, _, shown, ran, ran'⟩ :=
    same.exists_draw typed checked .empty
  have hotspot := (checkHotspot_iff_usable checked size).mpr usable
  rw [Cursor.ofImage, hotspot] at ran ran'
  obtain ⟨view, view'⟩ := shown 0 0 (by decide)
  exact ⟨typed, same, image, drawn, drawn', ran, ran', view.trans (by decide), view'.trans (by decide)⟩

end CursorBitmaps

end ScreenCapture
