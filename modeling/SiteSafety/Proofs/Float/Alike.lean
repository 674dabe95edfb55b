import SiteSafety.Proofs.Float.FiniteOrder
import SiteSafety.Proofs.Float.Zero

namespace SiteSafety.FloatValue

open Float.Model.UnpackedFloat

variable {x y z x' y' : Float}

/-- Equal as numbers, or a NaN both. -/
def Alike (x y : Float) : Prop := x = y ∨ (x == y) = true

theorem eq_nan_iff : x = Float.nan ↔ x.isNaN = true := by
  rw [Float.isNaN_eq_decide_eq_nan, decide_eq_true_iff]

theorem value_of_isNaN (h : x.isNaN = true) : value x = 0 := by
  rw [eq_nan_iff.mpr h]
  rfl

theorem alike_iff : Alike x y ↔ x.isNaN = y.isNaN ∧ value x = value y := by
  constructor
  · rintro (rfl | h)
    · exact ⟨rfl, rfl⟩
    · obtain ⟨hx, hy, hvalue⟩ := beq_iff.mp h
      exact ⟨hx.trans hy.symm, hvalue⟩
  · rintro ⟨hnan, hvalue⟩
    cases hx : x.isNaN with
    | false => exact .inr (beq_iff.mpr ⟨hx, hnan ▸ hx, hvalue⟩)
    | true => exact .inl ((eq_nan_iff.mpr hx).trans (eq_nan_iff.mpr (hnan ▸ hx)).symm)

theorem alike_zero_iff : Alike z 0 ↔ z.isNaN = false ∧ value z = 0 := by
  rw [alike_iff, isNaN_zero, value_zero]

theorem alike_of_nan_of_value (hnan : x.isNaN = y.isNaN)
    (hvalue : x.isNaN = false → y.isNaN = false → value x = value y) : Alike x y := by
  refine alike_iff.mpr ⟨hnan, ?_⟩
  cases hx : x.isNaN with
  | true => rw [value_of_isNaN hx, value_of_isNaN (hnan ▸ hx)]
  | false => exact hvalue hx (hnan ▸ hx)

namespace Alike

theorem refl (x : Float) : Alike x x := .inl rfl

theorem trans (h : Alike x y) (h' : Alike y z) : Alike x z := by
  rw [alike_iff] at *
  exact ⟨h.1.trans h'.1, h.2.trans h'.2⟩

theorem add (hx : Alike x x') (hy : Alike y y') : Alike (x + y) (x' + y') := by
  rw [alike_iff] at hx hy
  refine alike_of_nan_of_value ?_ fun hsum hsum' => ?_
  · rw [Bool.eq_iff_iff, isNaN_add, isNaN_add, hx.1, hx.2, hy.1, hy.2]
  · rw [value_add hsum, value_add hsum', hx.2, hy.2]

theorem add_of_zero (x : Float) (h : Alike z 0) : Alike (x + z) x := by
  obtain ⟨hnan, hvalue⟩ := alike_zero_iff.mp h
  refine alike_of_nan_of_value ?_ fun hsum _ => ?_
  · rw [Bool.eq_iff_iff, isNaN_add, hnan, hvalue]
    simp
  · rw [value_add hsum, hvalue, add_zero, rounded_value]

theorem eq (h : Alike x y) (hx : x ≠ -0) (hy : y ≠ -0) : x = y := by
  obtain rfl | h := h
  · rfl
  · obtain ⟨hxnan, hynan, hvalue⟩ := beq_iff.mp h
    exact eq_of_value_eq hxnan hynan hx hy hvalue

theorem isFinite_of_zero (h : Alike z 0) : z.isFinite = true := by
  obtain ⟨hnan, hvalue⟩ := alike_zero_iff.mp h
  exact isFinite_iff.mpr ⟨hnan, by simp [hvalue], by simp [hvalue]⟩

theorem mul_of_zero (hx : x.isFinite = true) (hy : y.isFinite = true) (h : Alike x 0 ∨ Alike y 0) :
    Alike (x * y) 0 := by
  have hnan := isNaN_mul_of_isFinite hx hy
  have hvalue : value x * value y = 0 :=
    mul_eq_zero.mpr (h.imp (fun h => (alike_zero_iff.mp h).2) fun h => (alike_zero_iff.mp h).2)
  exact alike_zero_iff.mpr ⟨hnan, by rw [value_mul hnan, hvalue, rounded_zero]⟩

end Alike

theorem add_eq_of_zero (hx : x ≠ -0) (h : Alike z 0) : x + z = x :=
  (Alike.add_of_zero x h).eq (add_ne_neg_zero hx) hx

theorem isNaN_mul_of_infinite (h : Alike x 0) (hy : y.isNaN = false) (hinf : y.isFinite = false) :
    (x * y).isNaN = true := by
  have hinfinite : value y = ⊤ ∨ value y = ⊥ := by
    by_contra hnot
    exact Bool.false_ne_true (hinf.symm.trans (isFinite_of_not_infinite hy hnot))
  exact isNaN_mul.mpr (.inr (.inr (.inl ⟨(alike_zero_iff.mp h).2, hinfinite⟩)))

end SiteSafety.FloatValue
