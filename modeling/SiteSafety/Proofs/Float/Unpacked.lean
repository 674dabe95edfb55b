import SiteSafety.Proofs.Float.Rounding

namespace SiteSafety.Unpacked

open Float.Model Float.Model.UnpackedFloat Rounding

theorem describes_shiftRightOne {em : ExtendedMantissa} {x : ℝ} (h : Describes em x) :
    Describes em.shiftRightOne (x / 2) := by
  obtain ⟨f, hlo, hhi, hx, hround, hsticky⟩ := h
  have hdiv : (em.mantissa : ℝ) = 2 * (em.mantissa / 2 : ℕ) + (em.mantissa % 2 : ℕ) := by
    exact_mod_cast (Nat.div_add_mod em.mantissa 2).symm
  have hbits : (em.roundBit || em.stickyBit) = true ↔ f ≠ 0 := by
    rw [Bool.or_eq_true, hround, hsticky]
    constructor
    · rintro (hf | hf)
      · linarith
      · exact hf.1
    · intro hf
      rcases lt_or_ge f (1 / 2) with hlt | hge
      · exact .inr ⟨hf, hlt.ne⟩
      · exact .inl hge
  rcases Nat.mod_two_eq_zero_or_one em.mantissa with hm | hm
  all_goals
    rw [hm] at hdiv
    push_cast at hdiv
  · refine ⟨f / 2, by linarith, by linarith, ?_, ?_, ?_⟩
    · rw [ExtendedMantissa.shiftRightOne, hx, hdiv]
      ring
    · simp only [ExtendedMantissa.shiftRightOne, hm, bne_self_eq_false, Bool.false_eq_true, false_iff]
      linarith
    · rw [ExtendedMantissa.shiftRightOne, hbits]
      constructor
      · exact fun hf => ⟨fun hz => hf (by linarith), by linarith⟩
      · exact fun hf hz => hf.1 (by rw [hz, zero_div])
  · refine ⟨(1 + f) / 2, by linarith, by linarith, ?_, ?_, ?_⟩
    · rw [ExtendedMantissa.shiftRightOne, hx, hdiv]
      ring
    · simp only [ExtendedMantissa.shiftRightOne, hm, Nat.one_ne_zero, bne_iff_ne, ne_eq,
        not_false_eq_true, true_iff]
      linarith
    · rw [ExtendedMantissa.shiftRightOne, hbits]
      constructor
      · exact fun hf => ⟨by linarith, fun hz => hf (by linarith)⟩
      · exact fun hf hz => hf.2 (by rw [hz, add_zero])

theorem describes_shiftRight {em : ExtendedMantissa} {x : ℝ} (h : Describes em x) (k : ℕ) :
    Describes (em >>> k) (x / 2 ^ k) := by
  induction k with
  | zero =>
      rw [pow_zero, div_one]
      exact h
  | succ k ih =>
      rw [pow_succ, ← div_div]
      exact describes_shiftRightOne ih

theorem roundedMantissa_eq {em : ExtendedMantissa} {x : ℝ} (h : Describes em x) :
    (em.roundedMantissa : ℤ) = nearestInt x := by
  obtain ⟨f, hlo, hhi, hx, hround, hsticky⟩ := h
  have hfloor : ⌊x⌋ = (em.mantissa : ℤ) := by
    rw [Int.floor_eq_iff, hx]
    push_cast
    constructor <;> linarith
  have hfract : Int.fract x = f := by
    rw [Int.fract, hfloor, hx]
    push_cast
    ring
  rw [nearestInt, hfloor, hfract]
  rcases em with ⟨m, round, sticky⟩
  have hmod : ((m % 2 : ℕ) : ℤ) = (m : ℤ) % 2 := by omega
  cases round <;> cases sticky <;>
    simp only [Bool.false_eq_true, false_iff, true_iff, not_le, not_and_or, not_not] at hround hsticky
  all_goals
    simp only [ExtendedMantissa.roundedMantissa, ExtendedMantissa.accuracy,
      Accuracy.roundToNearestEven]
  · rw [if_pos hround]
  · rw [if_pos hround]
  · have hf : f = 1 / 2 := hsticky.resolve_left (by linarith)
    rw [if_neg (by linarith), if_neg (by linarith), ← hmod]
    push_cast
    rfl
  · have hf : 1 / 2 < f := lt_of_le_of_ne hround (Ne.symm hsticky.2)
    rw [if_neg (by linarith), if_pos hf]
    push_cast
    rfl

theorem describes_exact (m : ℕ) :
    Describes (ExtendedMantissa.ofMantissaAndAccuracy m .exact) m :=
  ⟨0, le_rfl, one_pos, by simp [ExtendedMantissa.ofMantissaAndAccuracy],
    by simp [ExtendedMantissa.ofMantissaAndAccuracy],
    by simp [ExtendedMantissa.ofMantissaAndAccuracy]⟩

theorem describes_quotient (q : ℕ) {num den : ℕ} (h : num < den) :
    Describes (ExtendedMantissa.ofMantissaAndAccuracy q (accuracyOfFraction num den))
      (q + num / den) := by
  have hden : (0 : ℝ) < den := by exact_mod_cast (Nat.zero_le num).trans_lt h
  have hlt : (num : ℝ) / den < 1 := (div_lt_one hden).mpr (by exact_mod_cast h)
  by_cases hz : num = 0
  · rw [hz, accuracyOfFraction, if_pos rfl, Nat.cast_zero, zero_div, add_zero]
    exact describes_exact q
  · have hpos : (0 : ℝ) < num := by exact_mod_cast Nat.pos_of_ne_zero hz
    have hf : (0 : ℝ) < num / den := div_pos hpos hden
    refine ⟨num / den, hf.le, hlt, ?_⟩
    rw [accuracyOfFraction, if_neg hz]
    rcases lt_trichotomy (2 * num) den with hc | hc | hc
    · have hc' : (num : ℝ) / den < 1 / 2 := by
        rw [div_lt_div_iff₀ hden two_pos]
        exact_mod_cast (by omega : num * 2 < 1 * den)
      rw [Nat.compare_eq_lt.mpr hc]
      exact ⟨rfl, by simpa [ExtendedMantissa.ofMantissaAndAccuracy] using hc',
        by simpa [ExtendedMantissa.ofMantissaAndAccuracy, hf.ne'] using hc'.ne⟩
    · have hc' : (num : ℝ) / den = 1 / 2 := by
        rw [div_eq_div_iff hden.ne' two_ne_zero]
        exact_mod_cast (by omega : num * 2 = 1 * den)
      rw [Nat.compare_eq_eq.mpr hc, hc']
      exact ⟨rfl, by simp [ExtendedMantissa.ofMantissaAndAccuracy],
        by simp [ExtendedMantissa.ofMantissaAndAccuracy]⟩
    · have hc' : 1 / 2 < (num : ℝ) / den := by
        rw [div_lt_div_iff₀ two_pos hden]
        exact_mod_cast (by omega : 1 * den < num * 2)
      rw [Nat.compare_eq_gt.mpr hc]
      exact ⟨rfl, by simpa [ExtendedMantissa.ofMantissaAndAccuracy] using hc'.le,
        by simpa [ExtendedMantissa.ofMantissaAndAccuracy, hf.ne'] using hc'.ne'⟩

/-- The exponent that a float of the given mantissa and exponent is rounded to. -/
def target (m : ℕ) (e : ℤ) : ℤ := max ((m.log2 : ℤ) + e - 52) (-1074)

theorem targetExponent_eq (m : ℕ) (e : ℤ) :
    Format.binary64.targetExponent (totalExponent m e) = target m e := by
  simp only [Format.targetExponent, totalExponent, Format.mantissaBits, Format.minExponent, target]
  norm_num
  omega

theorem shiftToTarget_eq (m : ℕ) (e : ℤ) (a : Accuracy) :
    shiftToTargetExponent Format.binary64 m e a =
      (ExtendedMantissa.ofMantissaAndAccuracy m a >>> (target m e - e).toNat,
        e + (target m e - e).toNat) := by
  rw [shiftToTargetExponent, targetExponent_eq, shiftToExponent]

theorem target_le {m : ℕ} {e : ℤ} (hm : m < 2 ^ 53) (he : -1074 ≤ e) : target m e ≤ e := by
  have hlog : m.log2 ≤ 52 := by
    rcases Nat.eq_zero_or_pos m with rfl | hpos
    · simp
    · exact Nat.le_of_lt_succ ((Nat.log2_lt hpos.ne').mpr hm)
  unfold target
  omega

theorem shiftToTarget_small {m : ℕ} {e : ℤ} (hm : m < 2 ^ 53) (he : -1074 ≤ e) :
    shiftToTargetExponent Format.binary64 m e .exact = (⟨m, false, false⟩, e) := by
  have hk : (target m e - e).toNat = 0 := by have := target_le hm he; omega
  rw [shiftToTarget_eq, hk, Int.natCast_zero, Int.add_zero]
  rfl

theorem shiftToTarget_carry {e : ℤ} (he : -1074 ≤ e) :
    shiftToTargetExponent Format.binary64 (2 ^ 53) e .exact = (⟨2 ^ 52, false, false⟩, e + 1) := by
  have hk : (target (2 ^ 53) e - e).toNat = 1 := by
    rw [target, Nat.log2_two_pow]
    omega
  rw [shiftToTarget_eq, hk]
  rfl

theorem unitExponent_eq_target {m : ℕ} {e : ℤ} {x : ℝ} (hx : 0 < x) (hlo : m ≤ x) (hhi : x < m + 1)
    (he : e ≤ target m e) : unitExponent (x * 2 ^ e) = target m e := by
  have hpos := two_zpow_pos e
  rcases Nat.eq_zero_or_pos m with rfl | hm
  · rw [Nat.cast_zero, zero_add] at hhi
    have ht : target 0 e = -1074 := by
      unfold target at he ⊢
      rw [Nat.log2_zero] at he ⊢
      omega
    have hlt : |x * 2 ^ e| < 2 ^ (-1074 + 53 : ℤ) := by
      rw [abs_of_pos (mul_pos hx hpos)]
      calc x * 2 ^ e < 1 * 2 ^ e := mul_lt_mul_of_pos_right hhi hpos
        _ ≤ 2 ^ (-1074 + 53 : ℤ) := by
          rw [one_mul]
          exact zpow_le_zpow_right₀ one_le_two (by omega)
    rw [ht]
    exact le_antisymm (unitExponent_le_of_lt (mul_pos hx hpos).ne' le_rfl hlt) (le_max_right _ _)
  · have hlog : (2 : ℝ) ^ (m.log2 : ℤ) ≤ m := by exact_mod_cast Nat.log2_self_le hm.ne'
    have hlog' : (m : ℝ) + 1 ≤ 2 ^ ((m.log2 : ℤ) + 1) := by exact_mod_cast Nat.lt_log2_self (n := m)
    rw [target]
    apply unitExponent_eq
    · rw [two_zpow_add]
      exact mul_le_mul_of_nonneg_right (hlog.trans hlo) hpos.le
    · rw [show (m.log2 : ℤ) + e + 1 = (m.log2 + 1) + e by ring, two_zpow_add]
      exact mul_lt_mul_of_pos_right (hhi.trans_le hlog') hpos

theorem nearestInt_scaled_le {y : ℝ} {t : ℤ} {k : ℕ} (h : y ≤ 2 ^ (t + k)) :
    nearestInt (y / 2 ^ t) ≤ 2 ^ k := by
  have hle : y / 2 ^ t ≤ ((2 ^ k : ℤ) : ℝ) := by
    rw [div_le_iff₀ (two_zpow_pos t)]
    push_cast
    rwa [← zpow_natCast, ← two_zpow_add, add_comm]
  have hmono := nearestInt_mono hle
  rwa [nearestInt_intCast] at hmono

theorem le_nearestInt_scaled {y : ℝ} {t : ℤ} {k : ℕ} (h : 2 ^ (t + k) ≤ y) :
    2 ^ k ≤ nearestInt (y / 2 ^ t) := by
  have hle : ((2 ^ k : ℤ) : ℝ) ≤ y / 2 ^ t := by
    rw [le_div_iff₀ (two_zpow_pos t)]
    push_cast
    rwa [← zpow_natCast, ← two_zpow_add, add_comm]
  have hmono := nearestInt_mono hle
  rwa [nearestInt_intCast] at hmono

/-- Rounding a mantissa once: the integer that is left, in units in the last place. -/
theorem roundedMantissa_shift {m : ℕ} {e : ℤ} {a : Accuracy} {x : ℝ}
    (hx : Describes (ExtendedMantissa.ofMantissaAndAccuracy m a) x) (he : e ≤ target m e) {n : ℕ}
    (hn : (ExtendedMantissa.ofMantissaAndAccuracy m a >>> (target m e - e).toNat).roundedMantissa = n) :
    (n : ℝ) * 2 ^ target m e = nearest (x * 2 ^ e) ∧ n ≤ 2 ^ 53 ∧
      (2 ^ 52 ≤ n ∨ target m e = -1074) := by
  have hm : (ExtendedMantissa.ofMantissaAndAccuracy m a).mantissa = m := by
    cases a with
    | exact => rfl
    | inexact o => cases o <;> rfl
  obtain ⟨f, hf₀, hf₁, hxf, -⟩ := id hx
  rw [hm] at hxf
  have hx₀ : (m : ℝ) ≤ x := by linarith
  have hx₁ : x < m + 1 := by linarith
  have hround := roundedMantissa_eq (describes_shiftRight hx (target m e - e).toNat)
  have hscale : x / 2 ^ (target m e - e).toNat = x * 2 ^ e / 2 ^ target m e := by
    rw [div_eq_div_iff (by positivity) (two_zpow_pos _).ne', mul_assoc, ← zpow_natCast,
      ← two_zpow_add, Int.toNat_of_nonneg (by omega), add_sub_cancel]
  rw [hn, hscale] at hround
  have hcast : (n : ℝ) = (nearestInt (x * 2 ^ e / 2 ^ target m e) : ℤ) := by
    rw [← hround, Int.cast_natCast]
  refine ⟨?_, ?_, ?_⟩
  · rcases ((Nat.cast_nonneg m).trans hx₀).eq_or_lt with hz | hpos
    · have h := nearestInt_intCast 0
      rw [Int.cast_zero] at h
      rw [hcast, ← hz, zero_mul, zero_div, h, nearest_zero, Int.cast_zero, zero_mul]
    · rw [hcast, nearest, unitExponent_eq_target hpos hx₀ hx₁ he]
  · have hlog : (m : ℝ) + 1 ≤ 2 ^ ((m.log2 : ℤ) + 1) := by exact_mod_cast Nat.lt_log2_self (n := m)
    have hle : x * 2 ^ e ≤ 2 ^ (target m e + (53 : ℕ)) := by
      calc x * 2 ^ e ≤ 2 ^ ((m.log2 : ℤ) + 1) * 2 ^ e :=
            mul_le_mul_of_nonneg_right (hx₁.le.trans hlog) (two_zpow_pos e).le
        _ = 2 ^ ((m.log2 : ℤ) + 1 + e) := (two_zpow_add _ _).symm
        _ ≤ 2 ^ (target m e + (53 : ℕ)) := by
            refine zpow_le_zpow_right₀ one_le_two ?_
            unfold target
            omega
    have hbound := nearestInt_scaled_le hle
    omega
  · by_cases ht : target m e = -1074
    · exact .inr ht
    · have hm₀ : m ≠ 0 := by
        rintro rfl
        rw [target, Nat.log2_zero] at he ht
        omega
      have hlog : (2 : ℝ) ^ (m.log2 : ℤ) ≤ m := by exact_mod_cast Nat.log2_self_le hm₀
      have hle : 2 ^ (target m e + (52 : ℕ)) ≤ x * 2 ^ e := by
        calc (2 : ℝ) ^ (target m e + (52 : ℕ)) = 2 ^ ((m.log2 : ℤ) + e) := by
              congr 1
              unfold target at ht ⊢
              omega
          _ = 2 ^ (m.log2 : ℤ) * 2 ^ e := two_zpow_add _ _
          _ ≤ x * 2 ^ e := mul_le_mul_of_nonneg_right (hlog.trans hx₀) (two_zpow_pos e).le
      have hbound := le_nearestInt_scaled hle
      exact .inl (by omega)

theorem signed_zero (s : Sign) : signed s 0 = 0 := by
  cases s
  · exact neg_zero
  · rfl

theorem roundWithAccuracy_spec (s : Sign) {m : ℕ} {e : ℤ} {a : Accuracy} {x : ℝ}
    (hx : Describes (ExtendedMantissa.ofMantissaAndAccuracy m a) x) (he : e ≤ target m e) :
    valueOf (roundWithAccuracy Format.binary64 s m e a) = (signed s (nearest (x * 2 ^ e)) : ℝ) ∧
      Canonical (roundWithAccuracy Format.binary64 s m e a) ∧
      (roundWithAccuracy Format.binary64 s m e a).isFinite = true := by
  have hexp : e + ((target m e - e).toNat : ℤ) = target m e := by omega
  have ht : -1074 ≤ target m e := le_max_right _ _
  rw [roundWithAccuracy, shiftToTarget_eq, hexp]
  generalize hn : (ExtendedMantissa.ofMantissaAndAccuracy m a >>>
    (target m e - e).toNat).roundedMantissa = n
  obtain ⟨hvalue, hbound, hnormal⟩ := roundedMantissa_shift hx he hn
  rw [← hvalue]
  dsimp only
  rw [hn]
  rcases hbound.lt_or_eq with hlt | rfl
  · rw [shiftToTarget_small hlt ht]
    dsimp only
    split
    · next hz =>
      rw [hz, Nat.cast_zero, zero_mul, signed_zero]
      exact ⟨rfl, trivial, rfl⟩
    · exact ⟨rfl, ⟨hlt, ht, hnormal⟩, rfl⟩
  · rw [shiftToTarget_carry ht]
    dsimp only
    rw [dif_neg (by norm_num)]
    refine ⟨?_, ⟨by norm_num, by omega, .inl le_rfl⟩, rfl⟩
    rw [valueOf, add_comm, two_zpow_add, ← mul_assoc]
    norm_num

theorem nearest_signed (s : Sign) (x : ℝ) : nearest (signed s x) = signed s (nearest x) := by
  cases s
  · exact nearest_neg x
  · rfl

theorem decreaseExponent_value (m : ℕ) (e t : ℤ) :
    ((decreaseExponent m e t).1 : ℝ) * 2 ^ (decreaseExponent m e t).2 = m * 2 ^ e := by
  rw [decreaseExponent]
  dsimp only
  rw [Nat.shiftLeft_eq]
  push_cast
  rw [mul_assoc, ← zpow_natCast, ← two_zpow_add, add_sub_cancel]

theorem log2_shiftLeft {m : ℕ} (hm : 0 < m) (k : ℕ) : (m <<< k).log2 = m.log2 + k := by
  induction k with
  | zero => rfl
  | succ k ih =>
      have hne : m <<< k ≠ 0 := by
        rw [Nat.shiftLeft_eq]
        positivity
      rw [Nat.shiftLeft_succ, Nat.log2_two_mul hne, ih]
      rfl

theorem round_spec (s : Sign) {m : ℕ} (hm : 0 < m) (e : ℤ) :
    valueOf (UnpackedFloat.round Format.binary64 s m e) = (nearest (signed s (m * 2 ^ e)) : ℝ) ∧
      Canonical (UnpackedFloat.round Format.binary64 s m e) ∧
      (UnpackedFloat.round Format.binary64 s m e).isFinite = true := by
  have hvalue := decreaseExponent_value m e (target m e)
  have he : (decreaseExponent m e (target m e)).2 ≤
      target (decreaseExponent m e (target m e)).1 (decreaseExponent m e (target m e)).2 := by
    have hlog := log2_shiftLeft hm (e - target m e).toNat
    generalize ht : target m e = t at hlog ⊢
    simp only [decreaseExponent, target, hlog] at ht ⊢
    omega
  have hspec := roundWithAccuracy_spec s (describes_exact (decreaseExponent m e (target m e)).1) he
  rw [hvalue, ← nearest_signed] at hspec
  rw [UnpackedFloat.round, targetExponent_eq]
  exact hspec

theorem normalize_spec (n e : ℤ) (zero : Sign) :
    valueOf (UnpackedFloat.normalize Format.binary64 n e zero) = (nearest (n * 2 ^ e) : ℝ) ∧
      Canonical (UnpackedFloat.normalize Format.binary64 n e zero) ∧
      (UnpackedFloat.normalize Format.binary64 n e zero).isFinite = true := by
  unfold UnpackedFloat.normalize
  rcases lt_trichotomy n 0 with hn | hn | hn
  · have hcast : (((-n).toNat : ℕ) : ℝ) = -n := by
      exact_mod_cast (by omega : ((-n).toNat : ℤ) = -n)
    have hspec := round_spec .negative (m := (-n).toNat) (by omega) e
    rw [hcast, neg_mul, signed, neg_neg] at hspec
    rw [Int.compare_eq_lt.mpr hn]
    exact hspec
  · rw [Int.compare_eq_eq.mpr hn, hn, Int.cast_zero, zero_mul, nearest_zero]
    exact ⟨rfl, trivial, rfl⟩
  · have hcast : ((n.toNat : ℕ) : ℝ) = n := by
      exact_mod_cast (by omega : (n.toNat : ℤ) = n)
    have hspec := round_spec .positive (m := n.toNat) (by omega) e
    rw [hcast, signed] at hspec
    rw [Int.compare_eq_gt.mpr hn]
    exact hspec

end SiteSafety.Unpacked
