import Mathlib

namespace SiteSafety.Rounding

/-- The nearest integer, the even one of two. -/
noncomputable def nearestInt (x : ℝ) : ℤ :=
  if Int.fract x < 1 / 2 then ⌊x⌋
  else if 1 / 2 < Int.fract x then ⌊x⌋ + 1
  else ⌊x⌋ + ⌊x⌋ % 2

/-- The exponent of the unit in the last place of a number. -/
noncomputable def unitExponent (x : ℝ) : ℤ := max (Int.log 2 |x| - 52) (-1074)

noncomputable def nearest (x : ℝ) : ℝ :=
  nearestInt (x / 2 ^ unitExponent x) * 2 ^ unitExponent x

/-- The numbers of the format, infinities and the bound on exponents apart. -/
def OnGrid (x : ℝ) : Prop := ∃ n k : ℤ, |n| < 2 ^ 53 ∧ -1074 ≤ k ∧ x = n * 2 ^ k

noncomputable def limit : ℝ := 2 ^ (1024 : ℤ)

noncomputable def overflow (x : ℝ) : EReal :=
  if limit ≤ x then ⊤ else if x ≤ -limit then ⊥ else x

noncomputable def rounded : EReal → EReal
  | ⊥ => ⊥
  | ⊤ => ⊤
  | (x : ℝ) => overflow (nearest x)

/-- The extended reals that floats stand for. -/
def Representable (v : EReal) : Prop :=
  v = ⊥ ∨ v = ⊤ ∨ ∃ x : ℝ, v = x ∧ OnGrid x ∧ |x| < limit

end SiteSafety.Rounding

namespace SiteSafety.Unpacked

open Float.Model Float.Model.UnpackedFloat

def signed : Sign → ℝ → ℝ
  | .negative, x => -x
  | .positive, x => x

/-- What an unpacked float stands for; a NaN, which stands for nothing, is given zero. -/
noncomputable def valueOf : UnpackedFloat → EReal
  | .infinity .negative => ⊥
  | .infinity .positive => ⊤
  | .notANumber => 0
  | .zero _ => 0
  | .finite s m e _ => (signed s (m * 2 ^ e) : ℝ)

/-- A finite float has all its bits, or the smallest exponent. -/
def Canonical : UnpackedFloat → Prop
  | .finite _ m e _ => m < 2 ^ 53 ∧ -1074 ≤ e ∧ (2 ^ 52 ≤ m ∨ e = -1074)
  | _ => True

/-- The mantissa is the whole part of a number, and the guard bits place the rest. -/
def Describes (em : ExtendedMantissa) (x : ℝ) : Prop :=
  ∃ f : ℝ, 0 ≤ f ∧ f < 1 ∧ x = em.mantissa + f ∧
    (em.roundBit = true ↔ 1 / 2 ≤ f) ∧ (em.stickyBit = true ↔ f ≠ 0 ∧ f ≠ 1 / 2)

end SiteSafety.Unpacked

namespace SiteSafety.FloatValue

/-- What a float stands for. -/
noncomputable def value (x : Float) : EReal := Unpacked.valueOf x.toModel.unpack

end SiteSafety.FloatValue
