import SiteSafety.Proofs.Float.Order

namespace SiteSafety.FloatValue

open Float.Model Float.Model.UnpackedFloat Rounding Unpacked

theorem canonical (x : Float) : Canonical x.toModel.unpack := (canonical_unpack _).1

theorem fits (x : Float) : Fits x.toModel.unpack := (canonical_unpack _).2

theorem representable (x : Float) : Representable (value x) :=
  representable_valueOf (canonical x) (fits x)

theorem rounded_value (x : Float) : rounded (value x) = value x := (representable x).rounded_eq

theorem compare_eq_none {a b : UnpackedFloat} (h : a.isNaN = true ∨ b.isNaN = true) :
    a.compare b = none := by
  rcases h with h | h
  · cases a with
    | notANumber => rfl
    | infinity | zero | finite => cases h
  · cases b with
    | notANumber =>
        cases a with
        | infinity s => cases s <;> rfl
        | notANumber | zero => rfl
        | finite s => cases s <;> rfl
    | infinity | zero | finite => cases h

theorem compare_eq (x y : Float) :
    x.toModel.unpack.compare y.toModel.unpack =
      if x.isNaN = false ∧ y.isNaN = false then some (compare (value x) (value y)) else none := by
  split
  · next h => exact compare_valueOf (canonical x) (canonical y) h.1 h.2
  · next h =>
    rw [not_and_or, Bool.not_eq_false, Bool.not_eq_false] at h
    exact compare_eq_none h

theorem le_iff {x y : Float} :
    x ≤ y ↔ x.isNaN = false ∧ y.isNaN = false ∧ value x ≤ value y := by
  have h : x ≤ y ↔ (x.toModel.unpack.compare y.toModel.unpack).any (·.isLE) = true :=
    decide_eq_true_iff
  rw [h, compare_eq, ← and_assoc]
  split
  · next hn =>
    rw [Option.any_some, and_iff_right hn]
    exact Ordering.ne_gt_iff_isLE.symm.trans compare_le_iff_le
  · next hn => exact iff_of_false Bool.false_ne_true (fun h => hn h.1)

theorem lt_iff {x y : Float} :
    x < y ↔ x.isNaN = false ∧ y.isNaN = false ∧ value x < value y := by
  have h : x < y ↔ (x.toModel.unpack.compare y.toModel.unpack == some .lt) = true :=
    decide_eq_true_iff
  rw [h, compare_eq, ← and_assoc]
  split
  · next hn => rw [beq_iff_eq, Option.some.injEq, compare_lt_iff_lt, and_iff_right hn]
  · next hn => exact iff_of_false Bool.false_ne_true (fun h => hn h.1)

theorem not_lt_iff {x y : Float} (hx : x.isNaN = false) (hy : y.isNaN = false) :
    ¬ x < y ↔ y ≤ x := by
  rw [lt_iff, le_iff]
  simp only [hx, hy, true_and, not_lt]

theorem isFinite_iff {x : Float} :
    x.isFinite = true ↔ x.isNaN = false ∧ value x ≠ ⊥ ∧ value x ≠ ⊤ := by
  change x.toModel.unpack.isFinite = true ↔ x.toModel.unpack.isNaN = false ∧ _
  rw [value]
  cases x.toModel.unpack with
  | notANumber => simp [UnpackedFloat.isFinite, UnpackedFloat.isNaN]
  | infinity s => cases s <;> simp [UnpackedFloat.isFinite, UnpackedFloat.isNaN, valueOf]
  | zero s => simp [UnpackedFloat.isFinite, UnpackedFloat.isNaN, valueOf]
  | finite s m e hm => simp [UnpackedFloat.isFinite, UnpackedFloat.isNaN, valueOf]

end SiteSafety.FloatValue
