import SiteSafety.Proofs.Float.Arithmetic

namespace SiteSafety.Rounding

theorem nearest_ne_zero {x : ℝ} (h : 2 ^ (-1074 : ℤ) ≤ |x|) : nearest x ≠ 0 := by
  have habs : nearest |x| ≠ 0 :=
    ((two_zpow_pos (-1074)).trans_le (two_zpow_le_nearest h le_rfl)).ne'
  rcases abs_choice x with hx | hx
  · rwa [hx] at habs
  · rwa [hx, nearest_neg, neg_ne_zero] at habs

end SiteSafety.Rounding

namespace SiteSafety.Unpacked

open Float.Model Float.Model.UnpackedFloat Rounding

theorem normalize_ne_negative_zero (n : ℤ) {e : ℤ} (he : -1074 ≤ e) :
    UnpackedFloat.normalize Format.binary64 n e .positive ≠ .zero .negative := by
  rcases eq_or_ne n 0 with rfl | hn
  · rw [UnpackedFloat.normalize, Int.compare_eq_eq.mpr rfl]
    nofun
  · -- one quantum at least, which does not round to zero
    have hvalue := (normalize_spec n e .positive).1
    have hone : (1 : ℝ) ≤ |(n : ℝ)| := by exact_mod_cast Int.one_le_abs hn
    have hle : (2 : ℝ) ^ (-1074 : ℤ) ≤ |(n : ℝ) * 2 ^ e| := by
      rw [abs_mul, abs_of_pos (two_zpow_pos e)]
      exact (zpow_le_zpow_right₀ one_le_two he).trans
        (le_mul_of_one_le_left (two_zpow_pos e).le hone)
    intro hzero
    rw [hzero, valueOf] at hvalue
    exact nearest_ne_zero hle (EReal.coe_eq_zero.mp hvalue.symm)

theorem add_ne_negative_zero {a b : UnpackedFloat} (ha : Canonical a) (hb : Canonical b)
    (hne : a ≠ .zero .negative) :
    Canonical (UnpackedFloat.add Format.binary64 a b) ∧
      UnpackedFloat.add Format.binary64 a b ≠ .zero .negative := by
  cases a with
  | notANumber => exact ⟨trivial, nofun⟩
  | infinity s =>
      cases b with
      | notANumber => exact ⟨trivial, nofun⟩
      | infinity t => cases s <;> cases t <;> exact ⟨trivial, by simp [UnpackedFloat.add]⟩
      | zero t => exact ⟨trivial, by simp [UnpackedFloat.add]⟩
      | finite t n e hn => exact ⟨trivial, by simp [UnpackedFloat.add]⟩
  | zero s =>
      cases s with
      | negative => exact absurd rfl hne
      | positive =>
          cases b with
          | notANumber => exact ⟨trivial, by simp [UnpackedFloat.add]⟩
          | infinity t => exact ⟨trivial, by simp [UnpackedFloat.add]⟩
          | zero t => cases t <;> exact ⟨trivial, by simp [UnpackedFloat.add]⟩
          | finite t n e hn => exact ⟨hb, by simp [UnpackedFloat.add]⟩
  | finite s m d hm =>
      cases b with
      | notANumber => exact ⟨trivial, by simp [UnpackedFloat.add]⟩
      | infinity t => exact ⟨trivial, by simp [UnpackedFloat.add]⟩
      | zero t => exact ⟨ha, by simp [UnpackedFloat.add]⟩
      | finite t n e hn =>
          exact ⟨(normalize_spec _ _ _).2.1, normalize_ne_negative_zero _ (le_min ha.2.1 hb.2.1)⟩

theorem unpack_pack_ne_negative_zero {u : UnpackedFloat} (hc : Canonical u)
    (hne : u ≠ .zero .negative) : (Float.Model.pack u).unpack ≠ .zero .negative := by
  cases u with
  | notANumber => rw [unpack_pack_notANumber]; nofun
  | infinity s => rw [unpack_pack_infinity]; nofun
  | zero s => rwa [unpack_pack_zero]
  | finite s m e hm =>
      rw [unpack_pack_finite s hm hc]
      split <;> nofun

end SiteSafety.Unpacked

namespace SiteSafety.FloatValue

open Float.Model Float.Model.UnpackedFloat Rounding Unpacked

variable {x y : Float}

theorem beq_iff : (x == y) = true ↔ x.isNaN = false ∧ y.isNaN = false ∧ value x = value y := by
  have h : (x == y) = true ↔ (x.toModel.unpack.compare y.toModel.unpack == some .eq) = true :=
    Iff.rfl
  rw [h, compare_eq, ← and_assoc]
  split
  · next hn => rw [beq_iff_eq, Option.some.injEq, compare_eq_iff_eq, and_iff_right hn]
  · next hn => exact iff_of_false Bool.false_ne_true (fun h => hn h.1)

/-- Numbers other than negative zero are known by what they stand for. -/
theorem eq_of_value_eq (hx : x.isNaN = false) (hy : y.isNaN = false) (hx' : x ≠ -0) (hy' : y ≠ -0)
    (h : value x = value y) : x = y := by
  obtain ⟨-, -, heq | ⟨-, hneg⟩ | ⟨hneg, -⟩⟩ :=
    Float.beq_iff_ne_nan_and_eq.mp (beq_iff.mpr ⟨hx, hy, h⟩)
  · exact heq
  · exact absurd hneg hy'
  · exact absurd hneg hx'

theorem unpack_inj (h : x.toModel.unpack = y.toModel.unpack) : x = y := by
  have hbits := (unpack_inj_of_valid x.toModel.valid y.toModel.valid).mp h
  exact Float.toBits_inj.mp (UInt64.toBitVec_inj.mp hbits)

@[simp] theorem value_neg_zero : value (-0) = 0 := rfl

theorem eq_neg_zero_iff : x = -0 ↔ x.toModel.unpack = .zero .negative :=
  ⟨fun h => by rw [h]; rfl, fun h => unpack_inj h⟩

theorem add_ne_neg_zero (h : x ≠ -0) : x + y ≠ -0 := by
  rw [ne_eq, eq_neg_zero_iff] at h ⊢
  obtain ⟨hcanonical, hne⟩ := add_ne_negative_zero (canonical x) (canonical y) h
  exact unpack_pack_ne_negative_zero hcanonical hne

end SiteSafety.FloatValue
