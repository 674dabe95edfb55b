import SiteSafety.Proofs.Float.Packing

namespace SiteSafety.Unpacked

open Float.Model Float.Model.UnpackedFloat Rounding

/-- What is packed is a number, and it is the rounded one. -/
def Answers (u : UnpackedFloat) (v : EReal) : Prop :=
  (Float.Model.pack u).unpack.isNaN = false ∧ valueOf (Float.Model.pack u).unpack = rounded v

/-- A NaN where the operation is undefined, and else the exact answer, rounded. -/
def Computes (undefined : Prop) (u : UnpackedFloat) (v : EReal) : Prop :=
  (undefined ∧ u = .notANumber) ∨ (¬ undefined ∧ Answers u v)

theorem answers_infinity (s : Sign) : Answers (.infinity s) (valueOf (.infinity s)) := by
  rw [Answers, unpack_pack_infinity]
  cases s <;> exact ⟨rfl, rfl⟩

theorem answers_zero (s : Sign) : Answers (.zero s) 0 := by
  rw [Answers, unpack_pack_zero]
  refine ⟨rfl, ?_⟩
  have hlimit : |(0 : ℝ)| < limit := by
    rw [abs_zero]
    exact limit_pos
  rw [← EReal.coe_zero, rounded_coe, nearest_zero, overflow_of_abs_lt hlimit]
  rfl

theorem answers_finite (s : Sign) {m : ℕ} {e : ℤ} (hm : 0 < m)
    (hc : Canonical (.finite s m e hm)) (hf : Fits (.finite s m e hm)) :
    Answers (.finite s m e hm) (valueOf (.finite s m e hm)) := by
  have he : e ≤ 971 := hf
  rw [Answers, unpack_pack_finite s hm hc, if_pos he, (representable_valueOf hc hf).rounded_eq]
  exact ⟨rfl, rfl⟩

theorem answers_round {u : UnpackedFloat} {x : ℝ}
    (h : valueOf u = (nearest x : ℝ) ∧ Canonical u ∧ u.isFinite = true) : Answers u x :=
  repack_finite h.1 h.2.1 h.2.2

theorem infinity_eq (s : Sign) : valueOf (.infinity s) = ⊤ ∨ valueOf (.infinity s) = ⊥ := by
  cases s
  · exact .inr rfl
  · exact .inl rfl

theorem valueOf_infinity_mul (s t : Sign) :
    valueOf (.infinity s) * valueOf (.infinity t) = valueOf (.infinity (s * t)) := by
  cases s <;> cases t
  · exact EReal.bot_mul_bot
  · exact EReal.bot_mul_top
  · exact EReal.top_mul_bot
  · exact EReal.top_mul_top

theorem valueOf_infinity_mul_finite (s t : Sign) {n : ℕ} (hn : 0 < n) (e : ℤ) :
    valueOf (.infinity s) * valueOf (.finite t n e hn) = valueOf (.infinity (s * t)) := by
  have hpos : (0 : ℝ) < n * 2 ^ e := mul_pos (by exact_mod_cast hn) (two_zpow_pos e)
  cases s <;> cases t
  · exact EReal.bot_mul_coe_of_neg (neg_lt_zero.mpr hpos)
  · exact EReal.bot_mul_coe_of_pos hpos
  · exact EReal.top_mul_coe_of_neg (neg_lt_zero.mpr hpos)
  · exact EReal.top_mul_coe_of_pos hpos

theorem sign_mul_comm (s t : Sign) : s * t = t * s := by
  cases s <;> cases t <;> rfl

theorem signed_mul_signed (s t : Sign) (x y : ℝ) :
    signed s x * signed t y = signed (s * t) (x * y) := by
  cases s <;> cases t
  · exact neg_mul_neg x y
  · exact neg_mul x y
  · exact mul_neg x y
  · rfl

theorem signed_magnitude_ne (s : Sign) {m : ℕ} (hm : 0 < m) (e : ℤ) : signed s (m * 2 ^ e) ≠ 0 := by
  have hpos : (0 : ℝ) < m * 2 ^ e := mul_pos (by exact_mod_cast hm) (two_zpow_pos e)
  cases s
  · exact (neg_lt_zero.mpr hpos).ne
  · exact hpos.ne'

def SumUndefined (a b : UnpackedFloat) : Prop :=
  a.isNaN = true ∨ b.isNaN = true ∨ valueOf a = ⊤ ∧ valueOf b = ⊥ ∨ valueOf a = ⊥ ∧ valueOf b = ⊤

theorem decreaseExponent_signed (s : Sign) (m : ℕ) {e t : ℤ} (h : t ≤ e) :
    ((s.apply ((decreaseExponent m e t).1 : ℤ) : ℤ) : ℝ) * 2 ^ t = signed s (m * 2 ^ e) := by
  have hvalue := decreaseExponent_value m e t
  have he : (decreaseExponent m e t).2 = t := by
    rw [decreaseExponent]
    omega
  rw [he] at hvalue
  cases s
  · rw [Sign.apply, Int.cast_neg, Int.cast_natCast, neg_mul, hvalue, signed]
  · rw [Sign.apply, Int.cast_natCast, hvalue, signed]

theorem answers_add_finite (s t : Sign) {m n : ℕ} (hm : 0 < m) (hn : 0 < n) (d e : ℤ) :
    Answers (UnpackedFloat.add Format.binary64 (.finite s m d hm) (.finite t n e hn))
      (valueOf (.finite s m d hm) + valueOf (.finite t n e hn)) := by
  have hsum : valueOf (.finite s m d hm) + valueOf (.finite t n e hn) =
      (((s.apply ((decreaseExponent m d (min d e)).1 : ℤ) +
        t.apply ((decreaseExponent n e (min d e)).1 : ℤ) : ℤ) * 2 ^ min d e : ℝ) : EReal) := by
    rw [Int.cast_add, add_mul, decreaseExponent_signed s m (min_le_left d e),
      decreaseExponent_signed t n (min_le_right d e), EReal.coe_add]
    rfl
  rw [hsum]
  exact answers_round (normalize_spec _ _ _)

theorem add_spec {a b : UnpackedFloat} (ha : Canonical a ∧ Fits a) (hb : Canonical b ∧ Fits b) :
    Computes (SumUndefined a b) (UnpackedFloat.add Format.binary64 a b) (valueOf a + valueOf b) := by
  cases a with
  | notANumber => exact .inl ⟨.inl rfl, rfl⟩
  | infinity s =>
      cases b with
      | notANumber => exact .inl ⟨.inr (.inl rfl), rfl⟩
      | infinity t =>
          cases s <;> cases t
          · refine .inr ⟨by simp [SumUndefined, UnpackedFloat.isNaN, valueOf], ?_⟩
            exact answers_infinity .negative
          · exact .inl ⟨.inr (.inr (.inr ⟨rfl, rfl⟩)), rfl⟩
          · exact .inl ⟨.inr (.inr (.inl ⟨rfl, rfl⟩)), rfl⟩
          · refine .inr ⟨by simp [SumUndefined, UnpackedFloat.isNaN, valueOf], ?_⟩
            exact answers_infinity .positive
      | zero t =>
          refine .inr ⟨by simp [SumUndefined, UnpackedFloat.isNaN, valueOf], ?_⟩
          rw [valueOf, add_zero]
          exact answers_infinity s
      | finite t n e hn =>
          refine .inr ⟨by simp [SumUndefined, UnpackedFloat.isNaN, valueOf], ?_⟩
          have h := answers_infinity s
          cases s
          · exact h
          · exact h
  | zero s =>
      cases b with
      | notANumber => exact .inl ⟨.inr (.inl rfl), rfl⟩
      | infinity t =>
          refine .inr ⟨by simp [SumUndefined, UnpackedFloat.isNaN, valueOf], ?_⟩
          rw [valueOf, zero_add]
          exact answers_infinity t
      | zero t =>
          refine .inr ⟨by simp [SumUndefined, UnpackedFloat.isNaN, valueOf], ?_⟩
          rw [valueOf, valueOf, add_zero]
          cases s <;> cases t <;> exact answers_zero _
      | finite t n e hn =>
          refine .inr ⟨by simp [SumUndefined, UnpackedFloat.isNaN, valueOf], ?_⟩
          rw [valueOf, zero_add]
          exact answers_finite t hn hb.1 hb.2
  | finite s m d hm =>
      cases b with
      | notANumber => exact .inl ⟨.inr (.inl rfl), rfl⟩
      | infinity t =>
          refine .inr ⟨by simp [SumUndefined, UnpackedFloat.isNaN, valueOf], ?_⟩
          have h := answers_infinity t
          cases t
          · exact h
          · exact h
      | zero t =>
          refine .inr ⟨by simp [SumUndefined, UnpackedFloat.isNaN, valueOf], ?_⟩
          rw [valueOf.eq_def (.zero t), add_zero]
          exact answers_finite s hm ha.1 ha.2
      | finite t n e hn =>
          refine .inr ⟨by simp [SumUndefined, UnpackedFloat.isNaN, valueOf], ?_⟩
          exact answers_add_finite s t hm hn d e

def ProductUndefined (a b : UnpackedFloat) : Prop :=
  a.isNaN = true ∨ b.isNaN = true ∨ valueOf a = 0 ∧ (valueOf b = ⊤ ∨ valueOf b = ⊥) ∨
    valueOf b = 0 ∧ (valueOf a = ⊤ ∨ valueOf a = ⊥)

theorem le_target_mul {s t : Sign} {m n : ℕ} {d e : ℤ} {hm : 0 < m} {hn : 0 < n}
    (ha : Canonical (.finite s m d hm)) (hb : Canonical (.finite t n e hn)) :
    d + e ≤ target (m * n) (d + e) := by
  obtain ⟨-, hd, hnormal⟩ := ha
  obtain ⟨-, he, hnormal'⟩ := hb
  have hlog : 2 ^ 52 ≤ m * n → 52 ≤ (m * n).log2 :=
    (Nat.le_log2 (Nat.mul_ne_zero hm.ne' hn.ne')).mpr
  unfold target
  rcases hnormal with h | h
  · have := hlog (h.trans (Nat.le_mul_of_pos_right m hn))
    omega
  · rcases hnormal' with h' | h'
    · have := hlog (h'.trans (Nat.le_mul_of_pos_left n hm))
      omega
    · omega

theorem answers_mul_finite {s t : Sign} {m n : ℕ} {d e : ℤ} {hm : 0 < m} {hn : 0 < n}
    (ha : Canonical (.finite s m d hm)) (hb : Canonical (.finite t n e hn)) :
    Answers (UnpackedFloat.mul Format.binary64 (.finite s m d hm) (.finite t n e hn))
      (valueOf (.finite s m d hm) * valueOf (.finite t n e hn)) := by
  have hspec := roundWithAccuracy_spec (s * t) (describes_exact (m * n)) (le_target_mul ha hb)
  have hvalue : valueOf (.finite s m d hm) * valueOf (.finite t n e hn) =
      (signed (s * t) ((m * n : ℕ) * 2 ^ (d + e)) : ℝ) := by
    rw [valueOf, valueOf, ← EReal.coe_mul, signed_mul_signed, two_zpow_add, Nat.cast_mul,
      mul_mul_mul_comm]
  rw [← nearest_signed] at hspec
  rw [hvalue]
  exact answers_round hspec

theorem mul_spec {a b : UnpackedFloat} (ha : Canonical a) (hb : Canonical b) :
    Computes (ProductUndefined a b) (UnpackedFloat.mul Format.binary64 a b)
      (valueOf a * valueOf b) := by
  cases a with
  | notANumber => exact .inl ⟨.inl rfl, rfl⟩
  | infinity s =>
      cases b with
      | notANumber => exact .inl ⟨.inr (.inl rfl), rfl⟩
      | infinity t =>
          refine .inr ⟨by cases s <;> cases t <;>
            simp [ProductUndefined, UnpackedFloat.isNaN, valueOf], ?_⟩
          rw [valueOf_infinity_mul]
          exact answers_infinity (s * t)
      | zero t => exact .inl ⟨.inr (.inr (.inr ⟨rfl, infinity_eq s⟩)), rfl⟩
      | finite t n e hn =>
          refine .inr ⟨by cases s <;> simp [ProductUndefined, UnpackedFloat.isNaN, valueOf,
            signed_magnitude_ne t hn e], ?_⟩
          rw [valueOf_infinity_mul_finite]
          exact answers_infinity (s * t)
  | zero s =>
      cases b with
      | notANumber => exact .inl ⟨.inr (.inl rfl), rfl⟩
      | infinity t =>
          exact .inl ⟨.inr (.inr (.inl ⟨rfl, infinity_eq t⟩)), rfl⟩
      | zero t =>
          refine .inr ⟨by simp [ProductUndefined, UnpackedFloat.isNaN, valueOf], ?_⟩
          rw [valueOf, zero_mul]
          exact answers_zero (s * t)
      | finite t n e hn =>
          refine .inr ⟨by simp [ProductUndefined, UnpackedFloat.isNaN, valueOf], ?_⟩
          rw [valueOf, zero_mul]
          exact answers_zero (s * t)
  | finite s m d hm =>
      cases b with
      | notANumber => exact .inl ⟨.inr (.inl rfl), rfl⟩
      | infinity t =>
          refine .inr ⟨by cases t <;> simp [ProductUndefined, UnpackedFloat.isNaN, valueOf,
            signed_magnitude_ne s hm d], ?_⟩
          rw [mul_comm, valueOf_infinity_mul_finite, sign_mul_comm]
          exact answers_infinity (s * t)
      | zero t =>
          refine .inr ⟨by simp [ProductUndefined, UnpackedFloat.isNaN, valueOf], ?_⟩
          rw [valueOf.eq_def (.zero t), mul_zero]
          exact answers_zero (s * t)
      | finite t n e hn =>
          refine .inr ⟨by simp [ProductUndefined, UnpackedFloat.isNaN, valueOf], ?_⟩
          exact answers_mul_finite ha hb

theorem infinity_div_finite (s t : Sign) {n : ℕ} (hn : 0 < n) (e : ℤ) :
    valueOf (.infinity s) / valueOf (.finite t n e hn) = valueOf (.infinity (s / t)) := by
  have hpos : (0 : EReal) < ((n * 2 ^ e : ℝ) : EReal) :=
    EReal.coe_pos.mpr (mul_pos (by exact_mod_cast hn) (two_zpow_pos e))
  have hneg : ((-(n * 2 ^ e) : ℝ) : EReal) < 0 := by
    rw [EReal.coe_neg]
    exact EReal.neg_lt_zero.mpr hpos
  cases s <;> cases t
  · exact EReal.bot_div_of_neg_ne_bot hneg (EReal.coe_ne_bot _)
  · exact EReal.bot_div_of_pos_ne_top hpos (EReal.coe_ne_top _)
  · exact EReal.top_div_of_neg_ne_bot hneg (EReal.coe_ne_bot _)
  · exact EReal.top_div_of_pos_ne_top hpos (EReal.coe_ne_top _)

theorem signed_div_signed (s t : Sign) (x y : ℝ) :
    signed s x / signed t y = signed (s / t) (x / y) := by
  cases s <;> cases t
  · exact neg_div_neg_eq x y
  · exact neg_div y x
  · exact div_neg x
  · rfl

def QuotientUndefined (a b : UnpackedFloat) : Prop :=
  a.isNaN = true ∨ (valueOf a = ⊤ ∨ valueOf a = ⊥) ∧ (valueOf b = ⊤ ∨ valueOf b = ⊥)

theorem le_target_quotient {m n : ℕ} (hm : 0 < m) (hn : 0 < n) {g t : ℤ}
    (hg : t ≤ g) (ht : t ≤ max ((m.log2 : ℤ) - n.log2 + g - 53) (-1074)) :
    t ≤ target ((m <<< (g - t).toNat) / n) t := by
  rcases le_or_gt t (-1074) with h | h
  · exact h.trans (le_max_right _ _)
  · have hlow : 2 ^ (m.log2 + (g - t).toNat) ≤ m <<< (g - t).toNat := by
      rw [Nat.shiftLeft_eq, pow_add]
      exact Nat.mul_le_mul_right _ (Nat.log2_self_le hm.ne')
    have hq : 2 ^ 52 ≤ (m <<< (g - t).toNat) / n := by
      rw [Nat.le_div_iff_mul_le hn]
      calc 2 ^ 52 * n ≤ 2 ^ 52 * 2 ^ (n.log2 + 1) := Nat.mul_le_mul_left _ Nat.lt_log2_self.le
        _ = 2 ^ (52 + (n.log2 + 1)) := (pow_add _ _ _).symm
        _ ≤ 2 ^ (m.log2 + (g - t).toNat) := Nat.pow_le_pow_right two_pos (by omega)
        _ ≤ m <<< (g - t).toNat := hlow
    have hlog := (Nat.le_log2 (by omega)).mpr hq
    unfold target
    omega

theorem divCore_spec (s : Sign) {m n : ℕ} (hm : 0 < m) (hn : 0 < n) (d e : ℤ) :
    let c := divCore Format.binary64 m d n e
    valueOf (roundWithAccuracy Format.binary64 s c.1 c.2.1 c.2.2) =
        (nearest (signed s (m * 2 ^ d / (n * 2 ^ e))) : ℝ) ∧
      Canonical (roundWithAccuracy Format.binary64 s c.1 c.2.1 c.2.2) ∧
      (roundWithAccuracy Format.binary64 s c.1 c.2.1 c.2.2).isFinite = true := by
  have htarget : Format.binary64.targetExponent (totalExponent m d - totalExponent n e) =
      max ((m.log2 : ℤ) - n.log2 + (d - e) - 53) (-1074) := by
    simp only [Format.targetExponent, totalExponent, Format.mantissaBits, Format.minExponent]
    norm_num
    omega
  simp only [divCore, htarget]
  generalize htdef : min (d - e) (max ((m.log2 : ℤ) - n.log2 + (d - e) - 53) (-1074)) = t
  have hg : t ≤ d - e := htdef ▸ min_le_left _ _
  have hle := le_target_quotient hm hn hg (htdef ▸ min_le_right _ _)
  have hspec := roundWithAccuracy_spec s
    (describes_quotient ((m <<< (d - e - t).toNat) / n) (Nat.mod_lt (m <<< (d - e - t).toNat) hn)) hle
  have hn' : (n : ℝ) ≠ 0 := by exact_mod_cast hn.ne'
  have hwhole : (((m <<< (d - e - t).toNat) / n : ℕ) : ℝ) +
      ((m <<< (d - e - t).toNat % n : ℕ) : ℝ) / n = (m <<< (d - e - t).toNat : ℕ) / n := by
    rw [eq_div_iff hn', add_mul, div_mul_cancel₀ _ hn']
    exact_mod_cast Nat.div_add_mod' _ _
  have hvalue : ((m <<< (d - e - t).toNat : ℕ) : ℝ) / n * 2 ^ t = m * 2 ^ d / (n * 2 ^ e) := by
    have hden : (n : ℝ) * 2 ^ e ≠ 0 := mul_ne_zero hn' (two_zpow_pos e).ne'
    rw [Nat.shiftLeft_eq, div_mul_eq_mul_div, div_eq_div_iff hn' hden]
    push_cast
    rw [mul_assoc (m : ℝ), ← zpow_natCast, ← two_zpow_add, Int.toNat_of_nonneg (by omega),
      Int.sub_add_cancel, mul_assoc (m : ℝ), mul_left_comm (2 ^ (d - e) : ℝ), ← two_zpow_add,
      Int.sub_add_cancel]
    ring
  rw [hwhole, hvalue, ← nearest_signed] at hspec
  exact hspec

theorem div_spec {a b : UnpackedFloat} (hb : valueOf b ≠ 0) :
    Computes (QuotientUndefined a b) (UnpackedFloat.div Format.binary64 a b)
      (valueOf a / valueOf b) := by
  cases b with
  | notANumber | zero t => exact absurd rfl hb
  | infinity t =>
      have hdiv : ∀ v : EReal, v / valueOf (.infinity t) = 0 := by
        intro v
        cases t
        · exact EReal.div_bot
        · exact EReal.div_top
      cases a with
      | notANumber => exact .inl ⟨.inl rfl, rfl⟩
      | infinity s => exact .inl ⟨.inr ⟨infinity_eq s, infinity_eq t⟩, rfl⟩
      | zero s =>
          refine .inr ⟨by simp [QuotientUndefined, UnpackedFloat.isNaN, valueOf], ?_⟩
          rw [hdiv]
          exact answers_zero (s / t)
      | finite s m d hm =>
          refine .inr ⟨by simp [QuotientUndefined, UnpackedFloat.isNaN, valueOf], ?_⟩
          rw [hdiv]
          exact answers_zero (s / t)
  | finite t n e hn =>
      cases a with
      | notANumber => exact .inl ⟨.inl rfl, rfl⟩
      | infinity s =>
          refine .inr ⟨by simp [QuotientUndefined, UnpackedFloat.isNaN, valueOf], ?_⟩
          rw [infinity_div_finite]
          exact answers_infinity (s / t)
      | zero s =>
          refine .inr ⟨by simp [QuotientUndefined, UnpackedFloat.isNaN, valueOf], ?_⟩
          rw [valueOf.eq_def (.zero s), EReal.zero_div]
          exact answers_zero (s / t)
      | finite s m d hm =>
          refine .inr ⟨by simp [QuotientUndefined, UnpackedFloat.isNaN, valueOf], ?_⟩
          rw [valueOf, valueOf, ← EReal.coe_div, signed_div_signed]
          exact answers_round (divCore_spec (s / t) hm hn d e)

end SiteSafety.Unpacked
