import SiteSafety.Certification
import SiteSafety.Proofs.Float.Bounds

namespace SiteSafety

open FloatValue Rounding

theorem meanOutlets_get (rows : List Measurement) (k : Contaminant) :
    (meanOutlets rows).get k = mean (outletsOf rows k) := by
  cases k <;> rfl

theorem foldl_le_replicate {xs : List Float} {t : Float} (h : ∀ x ∈ xs, 0 ≤ x ∧ x ≤ t) {a b : Float}
    (ha : 0 ≤ a) (hab : a ≤ b) :
    xs.foldl (· + ·) a ≤ (List.replicate xs.length t).foldl (· + ·) b := by
  rw [← List.map_const', List.foldl_map]
  exact foldl_add_le h ha hab

theorem mean_of_length_pos {xs : List Float} (h : 0 < xs.length) :
    mean xs = xs.foldl (· + ·) 0 / Float.ofNat xs.length := by
  rw [mean, if_neg]
  rw [List.isEmpty_iff_length_eq_zero]
  exact h.ne'

theorem mean_replicate (t : Float) {n : ℕ} (h : 0 < n) :
    mean (List.replicate n t) = (List.replicate n t).foldl (· + ·) 0 / Float.ofNat n := by
  have hlen : (List.replicate n t).length = n := List.length_replicate
  rw [mean_of_length_pos (hlen.symm ▸ h), hlen]

theorem mean_nonneg {xs : List Float} (h : ∀ x ∈ xs, 0 ≤ x) (hnan : (mean xs).isNaN = false) :
    0 ≤ mean xs := by
  rcases Nat.eq_zero_or_pos xs.length with hz | hpos
  · rw [List.eq_nil_of_length_eq_zero hz]
    exact FloatValue.zero_le_zero
  · rw [mean_of_length_pos hpos] at hnan ⊢
    exact FloatValue.div_nonneg (foldl_add_nonneg h FloatValue.zero_le_zero) (zero_lt_ofNat hpos) hnan

theorem isNaN_mean {xs : List Float} (h : ∀ x ∈ xs, 0 ≤ x) (hlen : xs.length < 2 ^ 64) :
    (mean xs).isNaN = false := by
  rcases Nat.eq_zero_or_pos xs.length with hz | hpos
  · rw [List.eq_nil_of_length_eq_zero hz]
    rfl
  · obtain ⟨hnan, -⟩ := zero_le_iff.mp (foldl_add_nonneg h FloatValue.zero_le_zero)
    have hcount := (zero_lt_iff.mp (zero_lt_ofNat hpos)).2
    rw [mean_of_length_pos hpos, ← Bool.not_eq_true, isNaN_div hcount.ne', hnan]
    rintro (h | ⟨-, htop | hbot⟩)
    · cases h
    · exact ofNat_ne_top hlen htop
    · exact absurd hcount (by rw [hbot]; exact not_lt.mpr bot_le)

theorem mean_le_replicate {xs : List Float} {t : Float} (h : ∀ x ∈ xs, 0 ≤ x ∧ x ≤ t)
    (hnan : (mean (List.replicate xs.length t)).isNaN = false) :
    0 ≤ mean xs ∧ mean xs ≤ mean (List.replicate xs.length t) := by
  rcases Nat.eq_zero_or_pos xs.length with hz | hpos
  · rw [List.eq_nil_of_length_eq_zero hz]
    exact ⟨FloatValue.zero_le_zero, FloatValue.zero_le_zero⟩
  · rw [mean_replicate t hpos] at hnan ⊢
    have hle := foldl_le_replicate h FloatValue.zero_le_zero FloatValue.zero_le_zero
    have hnonneg := foldl_add_nonneg (fun x hx => (h x hx).1) FloatValue.zero_le_zero
    have hmean := FloatValue.div_le_div hnonneg hle (zero_lt_ofNat hpos) hnan
    rw [mean_of_length_pos hpos]
    exact ⟨FloatValue.div_nonneg hnonneg (zero_lt_ofNat hpos) (le_iff.mp hmean).1, hmean⟩

/-- The risk of a contaminant whose rows, as many as given, all have this outlet. -/
def riskAt (n : ℕ) (x t : Float) : Float := mean (List.replicate n x) / t

theorem share_le_riskAt {xs : List Float} {x t : Float} (ht : 0 < t) (h : ∀ y ∈ xs, 0 ≤ y ∧ y ≤ x)
    (hnan : (riskAt xs.length x t).isNaN = false) :
    0 ≤ mean xs / t ∧ mean xs / t ≤ riskAt xs.length x t := by
  obtain ⟨hlo, hhi⟩ := mean_le_replicate h (isNaN_dividend hnan ht)
  have hle := FloatValue.div_le_div hlo hhi ht hnan
  exact ⟨FloatValue.div_nonneg hlo ht (le_iff.mp hle).1, hle⟩

theorem share_inside_iff {xs : List Float} {t : Float} (ht : 0 < t) (h : ∀ y ∈ xs, 0 ≤ y) :
    (0 ≤ mean xs / t ∧ mean xs / t ≤ 1) ↔ (mean xs / t).isNaN = false ∧ mean xs ≤ t := by
  constructor
  · rintro ⟨hlo, hhi⟩
    obtain ⟨hnan, -⟩ := zero_le_iff.mp hlo
    have hmean := mean_nonneg h (isNaN_dividend hnan ht)
    exact ⟨hnan, (FloatValue.div_le_one_iff hmean ht hnan).mp hhi⟩
  · rintro ⟨hnan, hle⟩
    have hmean := mean_nonneg h (le_iff.mp hle).1
    exact ⟨FloatValue.div_nonneg hmean ht hnan,
      (FloatValue.div_le_one_iff hmean ht hnan).mpr hle⟩

/-- The multiples of a float up to the given one are floats, so adding it up rounds nothing. -/
def ExactMultiples (n : ℕ) (x : Float) : Prop :=
  n < 2 ^ 53 ∧ ∃ r : ℝ, value x = r ∧ ∀ j ≤ n, Representable ((j * r : ℝ) : EReal)

theorem value_foldl_replicate {t : Float} {x : ℝ} (ht : 0 ≤ t) (hx : value t = x) {j m : ℕ} {a : Float}
    (ha : 0 ≤ a) (hval : value a = (j * x : ℝ))
    (h : ∀ i ≤ j + m, Representable ((i * x : ℝ) : EReal)) :
    value ((List.replicate m t).foldl (· + ·) a) = ((j + m : ℕ) * x : ℝ) := by
  induction m generalizing j a with
  | zero => exact hval
  | succ m ih =>
      have hsum := FloatValue.add_nonneg ha ht
      have hstep : value (a + t) = ((j + 1 : ℕ) * x : ℝ) := by
        have hnext : ((j * x : ℝ) : EReal) + x = ((j + 1 : ℕ) * x : ℝ) := by
          rw [← EReal.coe_add, Nat.cast_succ, add_one_mul]
        rw [value_add (zero_le_iff.mp hsum).1, hval, hx, hnext, (h (j + 1) (by omega)).rounded_eq]
      have hfold := ih hsum hstep (fun i hi => h i (by omega))
      rw [List.replicate_succ, List.foldl_cons, hfold, Nat.add_right_comm]
      rfl

theorem value_div_real {x y : Float} {a b : ℝ} (hx : 0 ≤ x) (hy : 0 < y) (ha : value x = a)
    (hb : value y = b) : (x / y).isNaN = false ∧ value (x / y) = rounded (a / b : ℝ) := by
  have hy' := (zero_lt_iff.mp hy).2.ne'
  have hnan : (x / y).isNaN = false := by
    rw [← Bool.not_eq_true, isNaN_div hy', ha, (zero_le_iff.mp hx).1]
    simp only [EReal.coe_ne_top, EReal.coe_ne_bot, Bool.false_eq_true, or_self, false_and,
      not_false_eq_true]
  rw [value_div hy' hnan, ha, hb, EReal.coe_div]
  exact ⟨hnan, rfl⟩

theorem mean_replicate_exact {n : ℕ} {t : Float} {x : ℝ} (hn : n < 2 ^ 53) (hpos : 0 < n)
    (ht : 0 ≤ t) (hx : value t = x) (h : ∀ j ≤ n, Representable ((j * x : ℝ) : EReal)) :
    0 ≤ mean (List.replicate n t) ∧ value (mean (List.replicate n t)) = x := by
  have hzero : value 0 = ((0 : ℕ) * x : ℝ) := by
    rw [value_zero, Nat.cast_zero, zero_mul, EReal.coe_zero]
  have hle : ∀ j ≤ 0 + n, Representable ((j * x : ℝ) : EReal) := fun j hj => h j (by omega)
  have hsum := value_foldl_replicate ht hx FloatValue.zero_le_zero hzero hle
  have hall : ∀ y ∈ List.replicate n t, 0 ≤ y := fun y hy => by rwa [List.eq_of_mem_replicate hy]
  have hcount : value (Float.ofNat n) = (n : ℝ) := by rw [(answers_ofNat n).2, rounded_natCast hn]
  have hquot : ((0 + n : ℕ) * x / n : ℝ) = x := by
    rw [zero_add, mul_div_cancel_left₀ x (by exact_mod_cast hpos.ne')]
  have hmean := value_div_real (foldl_add_nonneg hall FloatValue.zero_le_zero) (zero_lt_ofNat hpos) hsum hcount
  rw [hquot, ← hx, rounded_value, hx, ← mean_replicate t hpos] at hmean
  exact ⟨mean_nonneg hall hmean.1, hmean.2⟩

theorem riskAt_of_exact {n : ℕ} {x t : Float} (ht : 0 < t) (hx : 0 ≤ x) (hxt : x ≤ t)
    (h : ExactMultiples n x) : riskAt n x t ≤ 1 := by
  obtain ⟨hn, r, hr, hexact⟩ := h
  obtain ⟨hxnan, htnan, hle⟩ := le_iff.mp hxt
  obtain ⟨y, hmean, hy, hyr⟩ : ∃ y : ℝ, 0 ≤ mean (List.replicate n x) ∧
      value (mean (List.replicate n x)) = y ∧ y ≤ r := by
    rcases Nat.eq_zero_or_pos n with rfl | hpos
    · have hrnonneg := (zero_le_iff.mp hx).2
      rw [hr] at hrnonneg
      exact ⟨0, FloatValue.zero_le_zero, value_zero, by exact_mod_cast hrnonneg⟩
    · obtain ⟨hmean, hval⟩ := mean_replicate_exact hn hpos hx hr hexact
      exact ⟨r, hmean, hval, le_rfl⟩
  have hnan : (mean (List.replicate n x) / t).isNaN = false := by
    rw [← Bool.not_eq_true, isNaN_div (zero_lt_iff.mp ht).2.ne', hy, (zero_le_iff.mp hmean).1]
    simp
  refine (FloatValue.div_le_one_iff hmean ht hnan).mpr
    (le_iff.mpr ⟨(zero_le_iff.mp hmean).1, htnan, le_trans ?_ hle⟩)
  rw [hy, hr]
  exact_mod_cast hyr

end SiteSafety
