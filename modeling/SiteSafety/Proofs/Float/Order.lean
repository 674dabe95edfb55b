import SiteSafety.Proofs.Float.Packing

namespace SiteSafety.Unpacked

open Float.Model Float.Model.UnpackedFloat Rounding

theorem magnitude_pos {m : ℕ} (hm : 0 < m) (e : ℤ) : (0 : ℝ) < m * 2 ^ e :=
  mul_pos (by exact_mod_cast hm) (two_zpow_pos e)

theorem magnitude_lt {m n : ℕ} {d e : ℤ} (hm : m < 2 ^ 53) (hn : 2 ^ 52 ≤ n) (h : d < e) :
    (m : ℝ) * 2 ^ d < n * 2 ^ e := by
  have hm' : (m : ℝ) < 2 ^ (53 : ℤ) := by exact_mod_cast hm
  have hn' : (2 : ℝ) ^ (52 : ℤ) ≤ n := by exact_mod_cast hn
  calc (m : ℝ) * 2 ^ d < 2 ^ (53 : ℤ) * 2 ^ d := mul_lt_mul_of_pos_right hm' (two_zpow_pos d)
    _ = 2 ^ (53 + d) := (two_zpow_add _ _).symm
    _ ≤ 2 ^ (52 + e) := zpow_le_zpow_right₀ one_le_two (by omega)
    _ = 2 ^ (52 : ℤ) * 2 ^ e := two_zpow_add _ _
    _ ≤ n * 2 ^ e := mul_le_mul_of_nonneg_right hn' (two_zpow_pos e).le

theorem compare_magnitude {s t : Sign} {m n : ℕ} {d e : ℤ} {hm : 0 < m} {hn : 0 < n}
    (hx : Canonical (.finite s m d hm)) (hy : Canonical (.finite t n e hn)) :
    (compare d e).then (compare m n) = compare ((m : ℝ) * 2 ^ d) (n * 2 ^ e) := by
  obtain ⟨hm', hd, hnormal⟩ := hx
  obtain ⟨hn', he, hnormal'⟩ := hy
  rcases lt_trichotomy d e with h | rfl | h
  · rw [compare_lt_iff_lt.mpr h,
      compare_lt_iff_lt.mpr (magnitude_lt hm' (hnormal'.resolve_right (by omega)) h)]
    rfl
  · rw [compare_eq_iff_eq.mpr rfl, Ordering.eq_then]
    have hpos := two_zpow_pos d
    rcases lt_trichotomy m n with h | rfl | h
    · have h' : (m : ℝ) * 2 ^ d < n * 2 ^ d := mul_lt_mul_of_pos_right (by exact_mod_cast h) hpos
      rw [compare_lt_iff_lt.mpr h, compare_lt_iff_lt.mpr h']
    · rw [compare_eq_iff_eq.mpr rfl, compare_eq_iff_eq.mpr rfl]
    · have h' : (n : ℝ) * 2 ^ d < m * 2 ^ d := mul_lt_mul_of_pos_right (by exact_mod_cast h) hpos
      rw [compare_gt_iff_gt.mpr h, compare_gt_iff_gt.mpr h']
  · rw [compare_gt_iff_gt.mpr h,
      compare_gt_iff_gt.mpr (magnitude_lt hn' (hnormal.resolve_right (by omega)) h)]
    rfl

theorem compare_coe (x y : ℝ) : compare (x : EReal) y = compare x y := by
  rcases lt_trichotomy x y with h | rfl | h
  · rw [compare_lt_iff_lt.mpr h, compare_lt_iff_lt.mpr (EReal.coe_lt_coe_iff.mpr h)]
  · rw [compare_eq_iff_eq.mpr rfl, compare_eq_iff_eq.mpr rfl]
  · rw [compare_gt_iff_gt.mpr h, compare_gt_iff_gt.mpr (EReal.coe_lt_coe_iff.mpr h)]

theorem compare_neg (x y : ℝ) : compare (-x) (-y) = (compare x y).swap := by
  rcases lt_trichotomy x y with h | rfl | h
  · rw [compare_lt_iff_lt.mpr h, compare_gt_iff_gt.mpr (neg_lt_neg h)]
    rfl
  · rw [compare_eq_iff_eq.mpr rfl, compare_eq_iff_eq.mpr rfl]
    rfl
  · rw [compare_gt_iff_gt.mpr h, compare_lt_iff_lt.mpr (neg_lt_neg h)]
    rfl

theorem compare_finite {s t : Sign} {m n : ℕ} {d e : ℤ} {hm : 0 < m} {hn : 0 < n}
    (hx : Canonical (.finite s m d hm)) (hy : Canonical (.finite t n e hn)) :
    (UnpackedFloat.finite s m d hm).compare (.finite t n e hn) =
      some (compare (signed s (m * 2 ^ d)) (signed t (n * 2 ^ e))) := by
  have hm' := magnitude_pos hm d
  have hn' := magnitude_pos hn e
  cases s with
  | negative =>
      cases t with
      | negative => rw [UnpackedFloat.compare, compare_magnitude hx hy, signed, signed, compare_neg]
      | positive =>
          rw [UnpackedFloat.compare, signed, signed, compare_lt_iff_lt.mpr (by linarith)]
  | positive =>
      cases t with
      | negative =>
          rw [UnpackedFloat.compare, signed, signed, compare_gt_iff_gt.mpr (by linarith)]
      | positive => rw [UnpackedFloat.compare, compare_magnitude hx hy, signed, signed]

theorem compare_zero_finite (t : Sign) {n : ℕ} (hn : 0 < n) (e : ℤ) (s : Sign) :
    (UnpackedFloat.zero s).compare (.finite t n e hn) = some (compare 0 (signed t (n * 2 ^ e))) := by
  have hn' := magnitude_pos hn e
  cases t with
  | negative => rw [UnpackedFloat.compare, signed, compare_gt_iff_gt.mpr (by linarith)]
  | positive => rw [UnpackedFloat.compare, signed, compare_lt_iff_lt.mpr hn']

theorem compare_finite_zero (t : Sign) {n : ℕ} (hn : 0 < n) (e : ℤ) (s : Sign) :
    (UnpackedFloat.finite t n e hn).compare (.zero s) = some (compare (signed t (n * 2 ^ e)) 0) := by
  have hn' := magnitude_pos hn e
  cases t with
  | negative => rw [UnpackedFloat.compare, signed, compare_lt_iff_lt.mpr (by linarith)]
  | positive => rw [UnpackedFloat.compare, signed, compare_gt_iff_gt.mpr hn']

theorem compare_valueOf {a b : UnpackedFloat} (ha : Canonical a) (hb : Canonical b)
    (hna : a.isNaN = false) (hnb : b.isNaN = false) :
    a.compare b = some (compare (valueOf a) (valueOf b)) := by
  cases a with
  | notANumber => cases hna
  | infinity s =>
      cases b with
      | notANumber => cases hnb
      | infinity t =>
          cases s <;> cases t
          · rw [valueOf, compare_eq_iff_eq.mpr rfl]; rfl
          · rw [valueOf, valueOf, compare_lt_iff_lt.mpr bot_lt_top]; rfl
          · rw [valueOf, valueOf, compare_gt_iff_gt.mpr bot_lt_top]; rfl
          · rw [valueOf, compare_eq_iff_eq.mpr rfl]; rfl
      | zero t =>
          cases s
          · rw [valueOf, valueOf, compare_lt_iff_lt.mpr EReal.bot_lt_zero]; rfl
          · rw [valueOf, valueOf, compare_gt_iff_gt.mpr EReal.zero_lt_top]; rfl
      | finite t n e hn =>
          cases s
          · rw [valueOf, valueOf, compare_lt_iff_lt.mpr (EReal.bot_lt_coe _)]; rfl
          · rw [valueOf, valueOf, compare_gt_iff_gt.mpr (EReal.coe_lt_top _)]; rfl
  | zero s =>
      cases b with
      | notANumber => cases hnb
      | infinity t =>
          cases t
          · rw [valueOf, valueOf, compare_gt_iff_gt.mpr EReal.bot_lt_zero]; rfl
          · rw [valueOf, valueOf, compare_lt_iff_lt.mpr EReal.zero_lt_top]; rfl
      | zero t => rw [valueOf, valueOf, compare_eq_iff_eq.mpr rfl]; rfl
      | finite t n e hn => rw [compare_zero_finite, valueOf, valueOf, ← EReal.coe_zero, compare_coe]
  | finite s m d hm =>
      cases b with
      | notANumber => cases hnb
      | infinity t =>
          cases t
          · rw [valueOf, valueOf, compare_gt_iff_gt.mpr (EReal.bot_lt_coe _)]; cases s <;> rfl
          · rw [valueOf, valueOf, compare_lt_iff_lt.mpr (EReal.coe_lt_top _)]; cases s <;> rfl
      | zero t => rw [compare_finite_zero, valueOf, valueOf, ← EReal.coe_zero, compare_coe]
      | finite t n e hn => rw [compare_finite ha hb, valueOf, valueOf, compare_coe]

end SiteSafety.Unpacked
