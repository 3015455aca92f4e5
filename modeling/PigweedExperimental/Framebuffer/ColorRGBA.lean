import PigweedExperimental.Terminal.DemoDecoder

namespace PigweedExperimental

/-! # `ColorRGBA`

Colours of 24 bits and of 16 bits. What is lost on the way down does not get worse
by going up and down again.
-/

structure ColorRGBA where
  r : UInt8
  g : UInt8
  b : UInt8
  a : UInt8
  deriving DecidableEq, Repr

namespace ColorRGBA

/-- `round(255.0 * ((float)value / max))`. With an odd `max` the exact number is never
half way between two others, and floating point is far more precise than its distance
from there. -/
def scale (value max : Nat) : UInt8 := .ofNat ((2 * 255 * value + max) / (2 * max))

def ofRgb565 (rgb565 : UInt16) : ColorRGBA :=
  let ir := (rgb565 &&& 0xF800) >>> 11
  let ig := (rgb565 &&& 0x7E0) >>> 5
  let ib := rgb565 &&& 0x1F
  { r := scale ir.toNat 31
    g := scale ig.toNat 63
    b := scale ib.toNat 31
    a := 255 }

def toRgb565 (color : ColorRGBA) : UInt16 :=
  Terminal.Color.toRgb565 ⟨color.r, color.g, color.b⟩

theorem scale_toNat {value max : Nat} (positive : 0 < max) (value_le : value ≤ max) :
    (scale value max).toNat = (2 * 255 * value + max) / (2 * max) := by
  rw [scale, UInt8.toNat_ofNat']
  apply Nat.mod_eq_of_lt
  rw [Nat.div_lt_iff_lt_mul (by omega)]
  have scaled : 2 * 255 * value ≤ 2 * 255 * max := Nat.mul_le_mul_left _ value_le
  omega

/-- The result is the nearest number, and there is only one. -/
theorem scale_nearest {value max : Nat} (positive : 0 < max) (value_le : value ≤ max)
    (odd : max % 2 = 1) :
    2 * 255 * value < 2 * (max * (scale value max).toNat) + max ∧
      2 * (max * (scale value max).toNat) < 2 * 255 * value + max := by
  have split := Nat.div_add_mod (2 * 255 * value + max) (2 * max)
  have rest := Nat.mod_lt (2 * 255 * value + max) (Nat.mul_pos Nat.two_pos positive)
  rw [← scale_toNat positive value_le, Nat.mul_assoc 2 max] at split
  omega

/-- A value of some bits is their number modulo a power of two. -/
theorem and_five_bits (value : Nat) : value &&& 31 = value % 32 :=
  Nat.and_two_pow_sub_one_eq_mod value 5

theorem and_six_bits (value : Nat) : value &&& 63 = value % 64 :=
  Nat.and_two_pow_sub_one_eq_mod value 6

section Channels

variable (rgb565 : UInt16) (color : ColorRGBA)

theorem red_toNat : ((rgb565 &&& 0xF800) >>> 11).toNat = rgb565.toNat / 2048 := by
  have fits := rgb565.toNat_lt
  simp [Nat.shiftRight_and_distrib]
  rw [and_five_bits, Nat.shiftRight_eq_div_pow]
  omega

theorem green_toNat : ((rgb565 &&& 0x7E0) >>> 5).toNat = rgb565.toNat / 32 % 64 := by
  simp [Nat.shiftRight_and_distrib]
  rw [and_six_bits, Nat.shiftRight_eq_div_pow]

theorem blue_toNat : (rgb565 &&& 0x1F).toNat = rgb565.toNat % 32 := by
  simp [and_five_bits]

/-- The upper bits of a byte. -/
theorem and_upper : ∀ value < 256, value &&& 0xF8 = value / 8 * 8 ∧
    value &&& 0xFC = value / 4 * 4 := by decide +kernel

/-- The channels side by side. -/
theorem toRgb565_toNat : color.toRgb565.toNat =
    color.r.toNat / 8 * 2048 + color.g.toNat / 4 * 32 + color.b.toNat / 8 := by
  have r_lt := color.r.toNat_lt
  have g_lt := color.g.toNat_lt
  have b_lt := color.b.toNat_lt
  have red : (color.r.toNat &&& 0xF8) <<< 8 % 65536 = 2 ^ 11 * (color.r.toNat / 8) := by
    rw [(and_upper _ r_lt).1, Nat.shiftLeft_eq]
    omega
  have green : (color.g.toNat &&& 0xFC) <<< 3 % 65536 = 2 ^ 5 * (color.g.toNat / 4) := by
    rw [(and_upper _ g_lt).2, Nat.shiftLeft_eq]
    omega
  have blue : (color.b.toNat &&& 0xF8) >>> 3 = color.b.toNat / 8 := by
    rw [(and_upper _ b_lt).1, Nat.shiftRight_eq_div_pow]
    omega
  have upper : 2 ^ 11 * (color.r.toNat / 8) + 2 ^ 5 * (color.g.toNat / 4) =
      2 ^ 11 * (color.r.toNat / 8) ||| 2 ^ 5 * (color.g.toNat / 4) :=
    Nat.two_pow_add_eq_or_of_lt (by omega) _
  have whole : 2 ^ 5 * (2 ^ 6 * (color.r.toNat / 8) + color.g.toNat / 4) + color.b.toNat / 8 =
      2 ^ 5 * (2 ^ 6 * (color.r.toNat / 8) + color.g.toNat / 4) ||| color.b.toNat / 8 :=
    Nat.two_pow_add_eq_or_of_lt (by omega) _
  have regroup : 2 ^ 5 * (2 ^ 6 * (color.r.toNat / 8) + color.g.toNat / 4) =
      2 ^ 11 * (color.r.toNat / 8) + 2 ^ 5 * (color.g.toNat / 4) := by omega
  simp [toRgb565, Terminal.Color.toRgb565]
  rw [red, green, blue, ← upper, ← regroup, ← whole]
  omega

/-- A channel that goes up and down again is the same; one that goes down and up stays
near. -/
theorem scale_down {value : Nat} :
    (value ≤ 31 → (scale value 31).toNat / 8 = value) ∧
      (value ≤ 63 → (scale value 63).toNat / 4 = value) := by
  constructor
  · intro value_le
    have nearest := scale_nearest (by decide) value_le (by decide)
    omega
  · intro value_le
    have nearest := scale_nearest (by decide) value_le (by decide)
    omega

theorem toRgb565_ofRgb565 : (ofRgb565 rgb565).toRgb565 = rgb565 := by
  have fits := rgb565.toNat_lt
  apply UInt16.toNat_inj.mp
  rw [toRgb565_toNat, ofRgb565]
  dsimp only
  rw [red_toNat, green_toNat, blue_toNat, scale_down.1 (by omega), scale_down.2 (by omega),
    scale_down.1 (by omega)]
  omega

/-- How far a byte is from another one. -/
def distance (first second : UInt8) : Nat :=
  (first.toNat - second.toNat) + (second.toNat - first.toNat)

theorem distance_scale_down (channel : UInt8) :
    distance (scale (channel.toNat / 8) 31) channel ≤ 7 ∧
      distance (scale (channel.toNat / 4) 63) channel ≤ 3 := by
  have fits := channel.toNat_lt
  have coarse := @scale_nearest (channel.toNat / 8) 31 (by decide) (by omega) (by decide)
  have fine := @scale_nearest (channel.toNat / 4) 63 (by decide) (by omega) (by decide)
  rw [distance, distance]
  omega

end Channels

/-- Sixteen bits go up and come down unchanged. A colour that goes down and up again is
off by at most 7 in red and blue and by at most 3 in green, and stays where it is then. -/
theorem rgb565_roundTrips (color : ColorRGBA) :
    (∀ rgb565, (ofRgb565 rgb565).toRgb565 = rgb565) ∧
      (distance (ofRgb565 color.toRgb565).r color.r ≤ 7 ∧
        distance (ofRgb565 color.toRgb565).g color.g ≤ 3 ∧
        distance (ofRgb565 color.toRgb565).b color.b ≤ 7) ∧
      ofRgb565 (ofRgb565 color.toRgb565).toRgb565 = ofRgb565 color.toRgb565 := by
  have r_lt := color.r.toNat_lt
  have g_lt := color.g.toNat_lt
  have b_lt := color.b.toNat_lt
  have packed := toRgb565_toNat color
  have red : color.toRgb565.toNat / 2048 = color.r.toNat / 8 := by omega
  have green : color.toRgb565.toNat / 32 % 64 = color.g.toNat / 4 := by omega
  have blue : color.toRgb565.toNat % 32 = color.b.toNat / 8 := by omega
  refine ⟨toRgb565_ofRgb565, ?_, by rw [toRgb565_ofRgb565]⟩
  rw [ofRgb565]
  dsimp only
  rw [red_toNat, green_toNat, blue_toNat, red, green, blue]
  exact ⟨(distance_scale_down color.r).1, (distance_scale_down color.g).2,
    (distance_scale_down color.b).1⟩

end ColorRGBA

end PigweedExperimental
