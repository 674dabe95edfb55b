import SiteSafety.Proofs.Float.Arithmetic

namespace SiteSafety.FloatValue

open Float.Model Float.Model.UnpackedFloat Rounding Unpacked

variable {x y : Float}

theorem isFinite_of_le (hlo : 0 ≤ x) (hle : x ≤ y) (hy : y.isFinite = true) : x.isFinite = true := by
  obtain ⟨hnan, -, hxy⟩ := le_iff.mp hle
  obtain ⟨-, -, htop⟩ := isFinite_iff.mp hy
  have hx_bot : value x ≠ ⊥ := (EReal.bot_lt_zero.trans_le (zero_le_iff.mp hlo).2).ne'
  have hx_top : value x ≠ ⊤ := (hxy.trans_lt (lt_top_iff_ne_top.mpr htop)).ne
  exact isFinite_iff.mpr ⟨hnan, hx_bot, hx_top⟩

theorem isFinite_of_isFinite_add (h : (x + y).isFinite = true) :
    x.isFinite = true ∧ y.isFinite = true := by
  obtain ⟨hnan, hbot, htop⟩ := isFinite_iff.mp h
  have hdefined := isNaN_add.not.mp (by rw [hnan]; exact Bool.false_ne_true)
  simp only [not_or, not_and, Bool.not_eq_true] at hdefined
  obtain ⟨hx, hy, -, -⟩ := hdefined
  rw [value_add hnan] at hbot htop
  have hx_bot : value x ≠ ⊥ := fun h => hbot (by rw [h, EReal.bot_add]; rfl)
  have hy_bot : value y ≠ ⊥ := fun h => hbot (by rw [h, EReal.add_bot]; rfl)
  have hx_top : value x ≠ ⊤ := fun h => htop (by rw [h, EReal.top_add_of_ne_bot hy_bot]; rfl)
  have hy_top : value y ≠ ⊤ := fun h => htop (by rw [h, EReal.add_top_of_ne_bot hx_bot]; rfl)
  exact ⟨isFinite_iff.mpr ⟨hx, hx_bot, hx_top⟩, isFinite_iff.mpr ⟨hy, hy_bot, hy_top⟩⟩

theorem mul_share (hx : 0 ≤ x) (hfin : x.isFinite = true) (hy : 0 ≤ y) (hy' : y ≤ 1) :
    0 ≤ x * y ∧ x * y ≤ x := by
  obtain ⟨hxnan, hbot, htop⟩ := isFinite_iff.mp hfin
  rw [zero_le_iff] at hx hy
  rw [le_one_iff] at hy'
  have hy_top : value y ≠ ⊤ := (hy'.2.trans_lt (EReal.coe_lt_top 1)).ne
  have hy_bot : value y ≠ ⊥ := (EReal.bot_lt_zero.trans_le hy.2).ne'
  have hnan : (x * y).isNaN = false := by
    rw [← Bool.not_eq_true, isNaN_mul]
    simp only [hxnan, hy.1, hbot, htop, hy_top, hy_bot, Bool.false_eq_true, or_self, and_false,
      not_false_eq_true]
  have hlo : 0 ≤ value (x * y) := by
    rw [value_mul hnan, ← rounded_zero]
    exact rounded_mono (mul_nonneg hx.2 hy.2)
  have hhi : value (x * y) ≤ value x := by
    rw [value_mul hnan]
    exact (representable x).rounded_le (mul_le_of_le_one_right hx.2 hy'.2)
  exact ⟨zero_le_iff.mpr ⟨hnan, hlo⟩, le_iff.mpr ⟨hnan, hxnan, hhi⟩⟩

/-- Floats of which one is larger are too far apart for their quotient to be rounded to one. -/
protected theorem div_le_one_iff (hx : 0 ≤ x) (hy : 0 < y) (h : (x / y).isNaN = false) :
    x / y ≤ 1 ↔ x ≤ y := by
  obtain ⟨hxnan, -⟩ := zero_le_iff.mp hx
  obtain ⟨hynan, hpos⟩ := zero_lt_iff.mp hy
  rw [le_one_iff, le_iff, value_div hpos.ne' h]
  simp only [h, hxnan, hynan, true_and]
  constructor
  · intro hle
    by_contra hlt
    rw [not_le] at hlt
    exact not_lt.mpr hle ((representable x).one_lt_rounded_div (representable y) hpos hlt)
  · intro hle
    rw [← value_one]
    refine (representable 1).rounded_le ?_
    rw [value_one]
    by_cases htop : value y = ⊤
    · rw [htop, EReal.div_top]
      exact zero_le_one
    · rw [EReal.div_le_iff_le_mul hpos htop, mul_one]
      exact hle

def largest : Float := .ofBits 0x7FEFFFFFFFFFFFFF

theorem value_largest : value largest = ((2 ^ 53 - 1 : ℕ) * 2 ^ (971 : ℤ) : ℝ) := by
  have h : largest.toModel.unpack = .finite .positive (2 ^ 53 - 1) 971 (by norm_num) := rfl
  rw [value, h]
  rfl

theorem le_largest (h : x.isFinite = true) : x ≤ largest := by
  refine le_iff.mpr ⟨(isFinite_iff.mp h).1, rfl, ?_⟩
  rw [value_largest, value]
  have hcanonical := canonical x
  have hfits := fits x
  change x.toModel.unpack.isFinite = true at h
  cases hx : x.toModel.unpack with
  | notANumber | infinity s =>
      rw [hx] at h
      cases h
  | zero s =>
      rw [valueOf]
      exact_mod_cast (magnitude_pos (by norm_num : 0 < 2 ^ 53 - 1) 971).le
  | finite s m e hm =>
      rw [hx] at hcanonical hfits
      have hm' : (m : ℝ) ≤ (2 ^ 53 - 1 : ℕ) := by exact_mod_cast Nat.le_sub_one_of_lt hcanonical.1
      have he : (2 : ℝ) ^ e ≤ 2 ^ (971 : ℤ) := zpow_le_zpow_right₀ one_le_two hfits
      have habs : signed s (m * 2 ^ e) ≤ m * 2 ^ e := by
        refine (le_abs_self _).trans_eq ?_
        rw [abs_signed, abs_of_pos (magnitude_pos hm e)]
      rw [valueOf, EReal.coe_le_coe_iff]
      exact habs.trans (mul_le_mul hm' he (zpow_nonneg zero_le_two e) (Nat.cast_nonneg _))

section Sums

variable {α : Type} {l : List α} {f g : α → Float}

theorem foldl_add_nonneg (h : ∀ x ∈ l, 0 ≤ f x) {a : Float} (ha : 0 ≤ a) :
    0 ≤ l.foldl (fun sum x => sum + f x) a := by
  induction l generalizing a with
  | nil => exact ha
  | cons x l ih =>
      obtain ⟨hx, hl⟩ := List.forall_mem_cons.mp h
      exact ih hl (FloatValue.add_nonneg ha hx)

theorem foldl_add_le (h : ∀ x ∈ l, 0 ≤ f x ∧ f x ≤ g x) {a b : Float} (ha : 0 ≤ a) (hab : a ≤ b) :
    l.foldl (fun sum x => sum + f x) a ≤ l.foldl (fun sum x => sum + g x) b := by
  induction l generalizing a b with
  | nil => exact hab
  | cons x l ih =>
      obtain ⟨⟨hx, hxg⟩, hl⟩ := List.forall_mem_cons.mp h
      have hsum := FloatValue.add_nonneg ha hx
      have hsum' := FloatValue.add_nonneg (FloatValue.le_trans ha hab) (FloatValue.le_trans hx hxg)
      exact ih hl hsum
        (FloatValue.add_le_add hab hxg (zero_le_iff.mp hsum).1 (zero_le_iff.mp hsum').1)

theorem isNaN_foldl_add {a : Float} (h : a.isNaN = true ∨ ∃ x ∈ l, (f x).isNaN = true) :
    (l.foldl (fun sum x => sum + f x) a).isNaN = true := by
  induction l generalizing a with
  | nil => exact h.resolve_right (by simp)
  | cons x l ih =>
      apply ih
      rcases h with h | ⟨y, hy, hnan⟩
      · exact .inl (isNaN_add.mpr (.inl h))
      rcases List.mem_cons.mp hy with rfl | hy
      · exact .inl (isNaN_add.mpr (.inr (.inl hnan)))
      · exact .inr ⟨y, hy, hnan⟩

end Sums

end SiteSafety.FloatValue
