import ScreenCapture.Bounds

set_option autoImplicit false

namespace ScreenCapture

structure Color where
  blue : UInt8
  green : UInt8
  red : UInt8
  alpha : UInt8
deriving DecidableEq, Repr

namespace Color

def solid (blue green red : UInt8) : Color := ⟨blue, green, red, 255⟩

-- Sources disagree on the alpha of an opaque pixel: some write 0, some 255.
def sameAlpha (alpha other : UInt8) : Bool :=
  alpha == other || ((alpha == 0 || alpha == 255) && (other == 0 || other == 255))

def agrees (color other : Color) : Bool :=
  color.blue == other.blue && color.green == other.green && color.red == other.red &&
    sameAlpha color.alpha other.alpha

def bytes (color : Color) : Array UInt8 := #[color.blue, color.green, color.red, color.alpha]

def ofWord (word : UInt32) : Color :=
  ⟨.ofNat word.toNat, .ofNat (word.toNat / 256), .ofNat (word.toNat / 65536),
    .ofNat (word.toNat / 16777216)⟩

def word (color : Color) : UInt32 :=
  .ofNat (color.blue.toNat + 256 * color.green.toNat + 65536 * color.red.toNat +
    16777216 * color.alpha.toNat)

theorem ofWord_word (color : Color) : ofWord color.word = color := by
  obtain ⟨blue, green, red, alpha⟩ := color
  have := blue.toNat_lt
  have := green.toNat_lt
  have := red.toNat_lt
  have := alpha.toNat_lt
  simp only [ofWord, word, Color.mk.injEq, ← UInt8.toNat_inj, UInt32.toNat_ofNat', UInt8.toNat_ofNat']
  omega

theorem word_ofWord (word : UInt32) : (ofWord word).word = word := by
  have := word.toNat_lt
  simp only [ofWord, Color.word, ← UInt32.toNat_inj, UInt32.toNat_ofNat', UInt8.toNat_ofNat']
  omega

theorem agrees_self (color : Color) : color.agrees color = true := by
  simp [agrees, sameAlpha]

theorem agrees_comm (color other : Color) : color.agrees other = other.agrees color := by
  rw [Bool.eq_iff_iff]
  simp only [agrees, sameAlpha, Bool.and_eq_true, Bool.or_eq_true, beq_iff_eq]
  grind

end Color

end ScreenCapture
