import SiteSafety.Proofs.Float.Operations
import SiteSafety.Proofs.Float.Value

namespace SiteSafety.FloatValue

open Float.Model Float.Model.UnpackedFloat Rounding Unpacked

theorem outcome {undefined : Prop} {u : UnpackedFloat} {v : EReal} (h : Computes undefined u v) :
    ((Float.ofModel (Float.Model.pack u)).isNaN = true ↔ undefined) ∧
      ((Float.ofModel (Float.Model.pack u)).isNaN = false →
        value (.ofModel (Float.Model.pack u)) = rounded v) := by
  rcases h with ⟨hu, rfl⟩ | ⟨hu, hnan, hvalue⟩
  · exact ⟨⟨fun _ => hu, fun _ => rfl⟩, fun hnan => nomatch hnan⟩
  · refine ⟨⟨fun h => ?_, fun h => absurd h hu⟩, fun _ => hvalue⟩
    change (Float.Model.pack u).unpack.isNaN = true at h
    rw [hnan] at h
    cases h

variable {x y : Float}

theorem isNaN_add : (x + y).isNaN = true ↔
    x.isNaN = true ∨ y.isNaN = true ∨ value x = ⊤ ∧ value y = ⊥ ∨ value x = ⊥ ∧ value y = ⊤ :=
  (outcome (add_spec (canonical_unpack _) (canonical_unpack _))).1

theorem value_add (h : (x + y).isNaN = false) : value (x + y) = rounded (value x + value y) :=
  (outcome (add_spec (canonical_unpack _) (canonical_unpack _))).2 h

theorem isNaN_mul : (x * y).isNaN = true ↔
    x.isNaN = true ∨ y.isNaN = true ∨ value x = 0 ∧ (value y = ⊤ ∨ value y = ⊥) ∨
      value y = 0 ∧ (value x = ⊤ ∨ value x = ⊥) :=
  (outcome (mul_spec (canonical x) (canonical y))).1

theorem value_mul (h : (x * y).isNaN = false) : value (x * y) = rounded (value x * value y) :=
  (outcome (mul_spec (canonical x) (canonical y))).2 h

theorem isNaN_div (hy : value y ≠ 0) : (x / y).isNaN = true ↔
    x.isNaN = true ∨ (value x = ⊤ ∨ value x = ⊥) ∧ (value y = ⊤ ∨ value y = ⊥) :=
  (outcome (div_spec (a := x.toModel.unpack) hy)).1

theorem value_div (hy : value y ≠ 0) (h : (x / y).isNaN = false) :
    value (x / y) = rounded (value x / value y) :=
  (outcome (div_spec (a := x.toModel.unpack) hy)).2 h

theorem value_add_real {a b : ℝ} (hx : x.isNaN = false ∧ value x = a)
    (hy : y.isNaN = false ∧ value y = b) :
    (x + y).isNaN = false ∧ value (x + y) = rounded (a + b : ℝ) := by
  have hnan : (x + y).isNaN = false := by
    rw [← Bool.not_eq_true, isNaN_add, hx.1, hy.1, hx.2, hy.2]
    simp only [EReal.coe_ne_top, EReal.coe_ne_bot, Bool.false_eq_true, and_self, or_self,
      not_false_eq_true]
  exact ⟨hnan, by rw [value_add hnan, hx.2, hy.2, EReal.coe_add]⟩

theorem value_mul_real {a b : ℝ} (hx : x.isNaN = false ∧ value x = a)
    (hy : y.isNaN = false ∧ value y = b) :
    (x * y).isNaN = false ∧ value (x * y) = rounded (a * b : ℝ) := by
  have hnan : (x * y).isNaN = false := by
    rw [← Bool.not_eq_true, isNaN_mul, hx.1, hy.1, hx.2, hy.2]
    simp only [EReal.coe_ne_top, EReal.coe_ne_bot, Bool.false_eq_true, and_false, or_self,
      not_false_eq_true]
  exact ⟨hnan, by rw [value_mul hnan, hx.2, hy.2, EReal.coe_mul]⟩

@[simp] theorem value_zero : value 0 = 0 := rfl

@[simp] theorem value_one : value 1 = 1 := by
  have h : (1 : Float).toModel.unpack = .finite .positive (2 ^ 52) (-52) (by norm_num) := rfl
  rw [value, h, valueOf, signed, ← EReal.coe_one]
  norm_num

@[simp] theorem isNaN_zero : (0 : Float).isNaN = false := rfl

@[simp] theorem isNaN_one : (1 : Float).isNaN = false := rfl

theorem zero_le_iff : 0 ≤ x ↔ x.isNaN = false ∧ 0 ≤ value x := by
  rw [le_iff, value_zero]
  simp only [isNaN_zero, true_and]

theorem zero_lt_iff : 0 < x ↔ x.isNaN = false ∧ 0 < value x := by
  rw [lt_iff, value_zero]
  simp only [isNaN_zero, true_and]

theorem le_one_iff : x ≤ 1 ↔ x.isNaN = false ∧ value x ≤ 1 := by
  rw [le_iff, value_one]
  simp only [isNaN_one, true_and]

protected theorem le_refl (h : x.isNaN = false) : x ≤ x := le_iff.mpr ⟨h, h, le_rfl⟩

protected theorem zero_le_zero : (0 : Float) ≤ 0 := FloatValue.le_refl isNaN_zero

protected theorem zero_lt_one : (0 : Float) < 1 :=
  zero_lt_iff.mpr ⟨isNaN_one, by rw [value_one]; exact zero_lt_one⟩

theorem rounded_zero : rounded 0 = 0 := rounded_value 0

protected theorem add_nonneg (hx : 0 ≤ x) (hy : 0 ≤ y) : 0 ≤ x + y := by
  rw [zero_le_iff] at *
  have hnan : (x + y).isNaN = false := by
    rw [← Bool.not_eq_true, isNaN_add]
    rintro (h | h | ⟨-, h⟩ | ⟨h, -⟩)
    · exact Bool.false_ne_true (hx.1.symm.trans h)
    · exact Bool.false_ne_true (hy.1.symm.trans h)
    · exact absurd hy.2 (by rw [h]; exact not_le.mpr EReal.bot_lt_zero)
    · exact absurd hx.2 (by rw [h]; exact not_le.mpr EReal.bot_lt_zero)
  refine ⟨hnan, ?_⟩
  rw [value_add hnan, ← rounded_zero]
  exact rounded_mono (add_nonneg hx.2 hy.2)

protected theorem add_le_add {x' y' : Float} (hx : x ≤ x') (hy : y ≤ y') (h : (x + y).isNaN = false)
    (h' : (x' + y').isNaN = false) : x + y ≤ x' + y' := by
  refine le_iff.mpr ⟨h, h', ?_⟩
  rw [value_add h, value_add h']
  exact rounded_mono (add_le_add (le_iff.mp hx).2.2 (le_iff.mp hy).2.2)

theorem not_add_lt (hy : 0 ≤ y) : ¬ x + y < x := by
  intro h
  obtain ⟨hnan, -, hlt⟩ := lt_iff.mp h
  rw [value_add hnan] at hlt
  have hle := (representable x).le_rounded (le_add_of_nonneg_right (zero_le_iff.mp hy).2)
  exact absurd hlt (not_lt.mpr hle)

protected theorem le_trans {z : Float} (h : x ≤ y) (h' : y ≤ z) : x ≤ z := by
  obtain ⟨hx, -, hxy⟩ := le_iff.mp h
  obtain ⟨-, hz, hyz⟩ := le_iff.mp h'
  exact le_iff.mpr ⟨hx, hz, hxy.trans hyz⟩

protected theorem div_nonneg (hx : 0 ≤ x) (hy : 0 < y) (h : (x / y).isNaN = false) : 0 ≤ x / y := by
  rw [zero_le_iff] at hx ⊢
  rw [zero_lt_iff] at hy
  refine ⟨h, ?_⟩
  rw [value_div hy.2.ne' h, ← rounded_zero]
  exact rounded_mono (EReal.div_nonneg hx.2 hy.2.le)

/-- A smaller dividend gives a number wherever a larger one does. -/
protected theorem div_le_div {x' : Float} (hx : 0 ≤ x) (hxx' : x ≤ x') (hy : 0 < y)
    (h : (x' / y).isNaN = false) : x / y ≤ x' / y := by
  obtain ⟨hnan, -, hle⟩ := le_iff.mp hxx'
  obtain ⟨-, hlo⟩ := zero_le_iff.mp hx
  obtain ⟨-, hpos⟩ := zero_lt_iff.mp hy
  have hnum : (x / y).isNaN = false := by
    rw [← Bool.not_eq_true, isNaN_div hpos.ne'] at h ⊢
    rintro (hx | ⟨hx | hx, hinf⟩)
    · exact Bool.false_ne_true (hnan.symm.trans hx)
    · rw [hx, top_le_iff] at hle
      exact h (.inr ⟨.inl hle, hinf⟩)
    · exact absurd hlo (by rw [hx]; exact not_le.mpr EReal.bot_lt_zero)
  rw [le_iff, value_div hpos.ne' hnum, value_div hpos.ne' h]
  exact ⟨hnum, h, rounded_mono (EReal.div_le_div_right_of_nonneg hpos.le hle)⟩

theorem isNaN_dividend (h : (x / y).isNaN = false) (hy : 0 < y) : x.isNaN = false := by
  rw [← Bool.not_eq_true] at h ⊢
  exact fun hx => h ((isNaN_div (zero_lt_iff.mp hy).2.ne').mpr (.inl hx))

theorem unpack_abs (x : Float) : x.abs.toModel.unpack = x.toModel.unpack.abs := by
  have hcanonical := canonical x
  have hfits := fits x
  refine unpack_pack ?_ ?_
  · cases hx : x.toModel.unpack <;> rw [hx] at hcanonical <;> exact hcanonical
  · cases hx : x.toModel.unpack <;> rw [hx] at hfits <;> exact hfits

theorem isNaN_abs (x : Float) : x.abs.isNaN = x.isNaN := by
  change x.abs.toModel.unpack.isNaN = x.toModel.unpack.isNaN
  rw [unpack_abs]
  cases x.toModel.unpack <;> rfl

theorem value_abs (x : Float) : value x.abs = max (value x) (-value x) := by
  rw [value, value, unpack_abs]
  cases x.toModel.unpack with
  | notANumber | zero s =>
      change (0 : EReal) = max 0 (-0)
      rw [neg_zero, max_self]
  | infinity s =>
      cases s with
      | negative => exact (max_eq_right bot_le).symm
      | positive => exact (max_eq_left bot_le).symm
  | finite s m e hm =>
      have hpos := magnitude_pos hm e
      have habs : |signed s (m * 2 ^ e)| = m * 2 ^ e := by rw [abs_signed, abs_of_pos hpos]
      rw [UnpackedFloat.abs, valueOf, valueOf, ← EReal.coe_neg,
        ← EReal.coe_strictMono.monotone.map_max]
      exact congrArg _ habs.symm

theorem ofNat_small {n : ℕ} (h : n < 2 ^ 53) : Float.ofNat n = n.toUInt64.toFloat * 1 := by
  have hdef : Float.ofNat n = Float.ofScientific n false 0 := rfl
  rw [hdef, Float.ofScientific, dif_pos ⟨h, by norm_num⟩]
  rfl

theorem ofNat_large {n : ℕ} (h : ¬ n < 2 ^ 53) :
    Float.ofNat n = .ofModel (Float.Model.ofScientific n 0) := by
  have hdef : Float.ofNat n = Float.ofScientific n false 0 := rfl
  rw [hdef, Float.ofScientific, dif_neg (fun h' => h h'.1)]
  rfl

theorem rounded_natCast {n : ℕ} (h : n < 2 ^ 53) : rounded ((n : ℝ) : EReal) = (n : ℝ) := by
  have hgrid : OnGrid (n : ℝ) := by
    have h' : |(n : ℤ)| < 2 ^ 53 := by
      rw [abs_of_nonneg (Int.natCast_nonneg n)]
      exact_mod_cast h
    exact_mod_cast onGrid_intCast h'
  have hlt : |(n : ℝ)| < limit := by
    rw [abs_of_nonneg (Nat.cast_nonneg n)]
    calc (n : ℝ) < 2 ^ (53 : ℤ) := by exact_mod_cast h
      _ ≤ limit := zpow_le_zpow_right₀ one_le_two (by norm_num)
  rw [rounded_coe, hgrid.nearest_eq, overflow_of_abs_lt hlt]

theorem answers_toFloat (w : UInt64) :
    w.toFloat.isNaN = false ∧ value w.toFloat = rounded (w.toNat : ℝ) := by
  have hanswer := answers_round (normalize_spec w.toNat 0 .positive)
  rw [zpow_zero, mul_one, Int.cast_natCast] at hanswer
  exact hanswer

theorem mul_one_answers {v : EReal} (hx : x.isNaN = false ∧ value x = v) :
    (x * 1).isNaN = false ∧ value (x * 1) = v := by
  have htop : (1 : EReal) ≠ ⊤ := EReal.coe_ne_top 1
  have hbot : (1 : EReal) ≠ ⊥ := EReal.coe_ne_bot 1
  have hnan : (x * 1).isNaN = false := by
    rw [← Bool.not_eq_true, isNaN_mul, hx.1, isNaN_one, value_one]
    simp only [htop, hbot, one_ne_zero, Bool.false_eq_true, false_and, and_false, or_self,
      not_false_eq_true]
  rw [value_mul hnan, value_one, mul_one, rounded_value]
  exact ⟨hnan, hx.2⟩

theorem answers_ofScientific {n : ℕ} (hn : 2 ^ 53 ≤ n) :
    Answers (UnpackedFloat.ofScientific Format.binary64 n 0) (n : ℝ) := by
  have hpos : 0 < n := by omega
  have hlog : n.log2 + 53 = (n <<< 53 * 1).log2 := by rw [mul_one, log2_shiftLeft hpos]
  have hle : (-53 + 0 : ℤ) ≤ target (n <<< 53 * 1) (-53 + 0) := by
    unfold target
    omega
  have hspec := roundWithAccuracy_spec .positive (describes_exact (n <<< 53 * 1)) hle
  have hvalue : ((n <<< 53 * 1 : ℕ) : ℝ) * 2 ^ (-53 + 0 : ℤ) = n := by
    rw [mul_one, Nat.shiftLeft_eq, Nat.cast_mul, mul_assoc]
    norm_num
  rw [hvalue] at hspec
  rw [UnpackedFloat.ofScientific, dif_neg hpos.ne', if_neg (by decide),
    if_neg (by simp only; omega), if_pos le_rfl]
  exact answers_round hspec

theorem answers_ofNat (n : ℕ) :
    (Float.ofNat n).isNaN = false ∧ value (Float.ofNat n) = rounded (n : ℝ) := by
  by_cases h : n < 2 ^ 53
  · have hword : n.toUInt64.toNat = n := by
      rw [Nat.toUInt64_eq, UInt64.toNat_ofNat', Nat.mod_eq_of_lt (by omega)]
    have hanswer := answers_toFloat n.toUInt64
    rw [hword] at hanswer
    rw [ofNat_small h]
    exact mul_one_answers hanswer
  · rw [ofNat_large h]
    exact answers_ofScientific (not_lt.mp h)

theorem zero_lt_ofNat {n : ℕ} (h : 0 < n) : 0 < Float.ofNat n := by
  obtain ⟨hnan, hvalue⟩ := answers_ofNat n
  have hone : (1 : EReal) ≤ value (Float.ofNat n) := by
    rw [hvalue, ← value_one]
    refine (representable 1).le_rounded ?_
    rw [value_one]
    exact_mod_cast h
  exact zero_lt_iff.mpr ⟨hnan, zero_lt_one.trans_le hone⟩

theorem ofNat_ne_top {n : ℕ} (h : n < 2 ^ 64) : value (Float.ofNat n) ≠ ⊤ := by
  have hlimit : |(2 : ℝ) ^ (64 : ℤ)| < limit := by
    rw [abs_of_pos (two_zpow_pos 64)]
    exact zpow_lt_zpow_right₀ one_lt_two (by norm_num)
  have hrep : Representable ((2 ^ (64 : ℤ) : ℝ) : EReal) :=
    .inr (.inr ⟨_, rfl, ⟨1, 64, by norm_num, by norm_num, by norm_num⟩, hlimit⟩)
  have hle : ((n : ℝ) : EReal) ≤ ((2 ^ (64 : ℤ) : ℝ) : EReal) :=
    EReal.coe_le_coe_iff.mpr (by exact_mod_cast h.le)
  rw [(answers_ofNat n).2]
  exact ((hrep.rounded_le hle).trans_lt (EReal.coe_lt_top _)).ne

end SiteSafety.FloatValue
