import SiteSafety.Proofs.Float.FiniteOrder
import SiteSafety.Proofs.Float.Whole

namespace SiteSafety

open Rounding

namespace Rounding

theorem Representable.neg {b : ℝ} (h : Representable b) : Representable ((-b : ℝ) : EReal) := by
  obtain h | h | ⟨x, hx, hgrid, hlt⟩ := h
  · exact absurd h (EReal.coe_ne_bot b)
  · exact absurd h (EReal.coe_ne_top b)
  · cases EReal.coe_eq_coe_iff.mp hx
    exact .inr (.inr ⟨-b, rfl, hgrid.neg, by rwa [abs_neg]⟩)

theorem exists_rounded {b r : ℝ} (hb : Representable b) (hr : |r| ≤ b) :
    ∃ q : ℝ, rounded r = q ∧ |q| ≤ b := by
  obtain ⟨hlo, hhi⟩ := abs_le.mp hr
  have hlo' := hb.neg.le_rounded (EReal.coe_le_coe_iff.mpr hlo)
  have hhi' := hb.rounded_le (EReal.coe_le_coe_iff.mpr hhi)
  have htop : rounded r ≠ ⊤ := (hhi'.trans_lt (EReal.coe_lt_top b)).ne
  have hbot : rounded r ≠ ⊥ := ((EReal.bot_lt_coe (-b)).trans_le hlo').ne'
  rw [← EReal.coe_toReal htop hbot] at hlo' hhi'
  exact ⟨(rounded r).toReal, (EReal.coe_toReal htop hbot).symm,
    abs_le.mpr ⟨EReal.coe_le_coe_iff.mp hlo', EReal.coe_le_coe_iff.mp hhi'⟩⟩

theorem representable_mul_two_pow {n k : ℕ} (hn : n ≤ 2 ^ 53) (hk : k + 53 < 1024) :
    Representable ((n * 2 ^ k : ℝ) : EReal) := by
  have hpow : (0 : ℝ) < 2 ^ k := by positivity
  have hgrid : OnGrid (n * 2 ^ k) := by
    rcases hn.lt_or_eq with hlt | rfl
    · refine ⟨n, k, ?_, by omega, by simp⟩
      rw [abs_of_nonneg (Int.natCast_nonneg n)]
      exact_mod_cast hlt
    · refine ⟨1, k + 53, by norm_num, by omega, ?_⟩
      rw [two_zpow_add, zpow_natCast]
      push_cast
      ring
  refine .inr (.inr ⟨_, rfl, hgrid, ?_⟩)
  rw [abs_of_nonneg (by positivity)]
  calc (n : ℝ) * 2 ^ k ≤ 2 ^ 53 * 2 ^ k := mul_le_mul_of_nonneg_right (by exact_mod_cast hn) hpow.le
    _ = 2 ^ ((k + 53 : ℕ) : ℤ) := by rw [zpow_natCast, pow_add, mul_comm]
    _ < limit := zpow_lt_zpow_right₀ one_lt_two (by omega)

theorem representable_two_pow {k : ℕ} (hk : k < 1024) : Representable ((2 ^ k : ℝ) : EReal) := by
  refine .inr (.inr ⟨_, rfl, ⟨1, k, by norm_num, by omega, by simp⟩, ?_⟩)
  rw [abs_of_pos (by positivity), ← zpow_natCast]
  exact zpow_lt_zpow_right₀ one_lt_two (by exact_mod_cast hk)

end Rounding

namespace FloatValue

def Bounded (b : ℝ) (x : Float) : Prop := x.isNaN = false ∧ ∃ r : ℝ, value x = r ∧ |r| ≤ b

variable {a b : ℝ} {x y : Float}

namespace Bounded

theorem isFinite (h : Bounded b x) : x.isFinite = true := by
  obtain ⟨hnan, r, hr, -⟩ := h
  exact isFinite_iff.mpr ⟨hnan, hr ▸ EReal.coe_ne_bot r, hr ▸ EReal.coe_ne_top r⟩

theorem zero (hb : 0 ≤ b) : Bounded b 0 := ⟨isNaN_zero, 0, value_zero, by rwa [abs_zero]⟩

theorem of_rounded {r : ℝ} (hx : x.isNaN = false ∧ value x = rounded r) (hb : Representable b)
    (hr : |r| ≤ b) : Bounded b x := by
  obtain ⟨q, hq, hle⟩ := exists_rounded hb hr
  exact ⟨hx.1, q, hx.2.trans hq, hle⟩

theorem add (hx : Bounded a x) (hy : Bounded b y) (hab : Representable ((a + b : ℝ) : EReal)) :
    Bounded (a + b) (x + y) := by
  obtain ⟨hx, r, hr, hra⟩ := hx
  obtain ⟨hy, q, hq, hqb⟩ := hy
  exact of_rounded (value_add_real ⟨hx, hr⟩ ⟨hy, hq⟩) hab ((abs_add_le r q).trans (add_le_add hra hqb))

theorem sub (hx : Bounded a x) (hy : Bounded b y) (hab : Representable ((a + b : ℝ) : EReal)) :
    Bounded (a + b) (x - y) := by
  obtain ⟨hy, q, hq, hqb⟩ := hy
  rw [sub_eq]
  refine hx.add ⟨isNaN_neg y ▸ hy, -q, ?_, by rwa [abs_neg]⟩ hab
  rw [value_neg, hq, EReal.coe_neg]

theorem mul (hx : Bounded a x) (hy : Bounded b y) (hab : Representable ((a * b : ℝ) : EReal)) :
    Bounded (a * b) (x * y) := by
  obtain ⟨hx, r, hr, hra⟩ := hx
  obtain ⟨hy, q, hq, hqb⟩ := hy
  refine of_rounded (value_mul_real ⟨hx, hr⟩ ⟨hy, hq⟩) hab ?_
  rw [abs_mul]
  exact mul_le_mul hra hqb (abs_nonneg q) ((abs_nonneg r).trans hra)

theorem div (hx : Bounded a x) (hb : 0 < b) (hy : 0 < y) (hle : ((b⁻¹ : ℝ) : EReal) ≤ value y)
    (hab : Representable ((a * b : ℝ) : EReal)) : Bounded (a * b) (x / y) := by
  obtain ⟨hx, r, hr, hra⟩ := hx
  obtain ⟨-, hpos⟩ := zero_lt_iff.mp hy
  have hnan : (x / y).isNaN = false := by
    rw [← Bool.not_eq_true, isNaN_div hpos.ne', hx, hr]
    simp only [EReal.coe_ne_top, EReal.coe_ne_bot, Bool.false_eq_true, false_and, or_self,
      not_false_eq_true]
  have hnonneg : 0 ≤ a * b := mul_nonneg ((abs_nonneg r).trans hra) hb.le
  have hvalue := value_div hpos.ne' hnan
  rw [hr] at hvalue
  by_cases htop : value y = ⊤
  · -- an infinite divisor leaves nothing of the dividend
    rw [htop, EReal.div_top] at hvalue
    exact of_rounded ⟨hnan, hvalue⟩ hab (by rwa [abs_zero])
  · have hbot : value y ≠ ⊥ := (EReal.bot_lt_zero.trans hpos).ne'
    rw [← EReal.coe_toReal htop hbot] at hle hpos hvalue
    have hq : 0 < (value y).toReal := by exact_mod_cast hpos
    rw [← EReal.coe_div] at hvalue
    refine of_rounded ⟨hnan, hvalue⟩ hab ?_
    rw [abs_div, abs_of_pos hq, div_eq_mul_inv]
    refine mul_le_mul hra ?_ (inv_nonneg.mpr hq.le) ((abs_nonneg r).trans hra)
    exact inv_le_of_inv_le₀ hb (EReal.coe_le_coe_iff.mp hle)

theorem foldl_add {xs : List Float} {n k : ℕ} (h : ∀ x ∈ xs, Bounded (2 ^ k) x) {s : Float}
    (hs : Bounded (n * 2 ^ k) s) (hn : n + xs.length ≤ 2 ^ 53) (hk : k + 53 < 1024) :
    Bounded ((n + xs.length : ℕ) * 2 ^ k) (xs.foldl (· + ·) s) := by
  -- the terms summed so far are counted by `n`, and each adds the bound of one term
  induction xs generalizing n s with
  | nil => exact hs
  | cons x xs ih =>
      obtain ⟨hx, hxs⟩ := List.forall_mem_cons.mp h
      rw [List.length_cons, ← Nat.add_assoc, Nat.add_right_comm] at hn ⊢
      have hnext : (n * 2 ^ k + 2 ^ k : ℝ) = (n + 1 : ℕ) * 2 ^ k := by
        rw [Nat.cast_succ, add_one_mul]
      have hsum := hs.add hx (by rw [hnext]; exact representable_mul_two_pow (by omega) hk)
      rw [hnext] at hsum
      exact ih hxs hsum hn

theorem mul_two_pow {i j : ℕ} (hx : Bounded (2 ^ i) x) (hy : Bounded (2 ^ j) y) (h : i + j < 1024) :
    Bounded (2 ^ (i + j)) (x * y) := by
  rw [pow_add]
  exact hx.mul hy (pow_add (2 : ℝ) i j ▸ representable_two_pow h)

theorem isFinite_foldl_add {xs : List Float} {k : ℕ} (h : ∀ x ∈ xs, Bounded (2 ^ k) x) {s : Float}
    (hs : s.isNaN = false ∧ value s = 0) (hn : xs.length ≤ 2 ^ 53) (hk : k + 53 < 1024) :
    (xs.foldl (· + ·) s).isFinite = true := by
  have hstart : Bounded ((0 : ℕ) * 2 ^ k) s := by
    rw [Nat.cast_zero, zero_mul]
    exact ⟨hs.1, 0, hs.2, abs_zero.le⟩
  exact (foldl_add h hstart (by omega) hk).isFinite

theorem of_abs_le {k : ℕ} (hk : k < 53) (h : x.abs ≤ Float.ofNat (2 ^ k)) : Bounded (2 ^ k) x := by
  have hcount : 2 ^ k < 2 ^ 53 := Nat.pow_lt_pow_right Nat.one_lt_two hk
  obtain ⟨hnan, -, hle⟩ := le_iff.mp h
  rw [isNaN_abs] at hnan
  rw [value_abs, (answers_ofNat (2 ^ k)).2, rounded_natCast hcount, Nat.cast_pow, Nat.cast_ofNat,
    max_le_iff] at hle
  have htop : value x ≠ ⊤ := (hle.1.trans_lt (EReal.coe_lt_top _)).ne
  have hbot : value x ≠ ⊥ := by
    intro hbot
    rw [hbot, EReal.neg_bot] at hle
    exact absurd hle.2 (not_le.mpr (EReal.coe_lt_top _))
  rw [← EReal.coe_toReal htop hbot, ← EReal.coe_neg] at hle
  refine ⟨hnan, (value x).toReal, (EReal.coe_toReal htop hbot).symm, abs_le'.mpr ?_⟩
  exact ⟨EReal.coe_le_coe_iff.mp hle.1, EReal.coe_le_coe_iff.mp hle.2⟩

end Bounded

end FloatValue

end SiteSafety
