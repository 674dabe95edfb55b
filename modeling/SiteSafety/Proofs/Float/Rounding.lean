import SiteSafety.Proofs.Float.Basic

namespace SiteSafety.Rounding

theorem nearestInt_intCast (n : ℤ) : nearestInt n = n := by
  have h : Int.fract (n : ℝ) < 1 / 2 := by rw [Int.fract_intCast]; norm_num
  rw [nearestInt, if_pos h, Int.floor_intCast]

theorem floor_le_nearestInt (x : ℝ) : ⌊x⌋ ≤ nearestInt x := by
  unfold nearestInt
  split_ifs <;> omega

theorem nearestInt_le (x : ℝ) : nearestInt x ≤ ⌊x⌋ + 1 := by
  unfold nearestInt
  split_ifs <;> omega

theorem nearestInt_mono {x y : ℝ} (h : x ≤ y) : nearestInt x ≤ nearestInt y := by
  rcases (Int.floor_mono h).lt_or_eq with hlt | heq
  · exact (nearestInt_le x).trans ((by omega : ⌊x⌋ + 1 ≤ ⌊y⌋).trans (floor_le_nearestInt y))
  · have hf : Int.fract x ≤ Int.fract y := by
      rw [Int.fract, Int.fract, heq]
      linarith
    unfold nearestInt
    rw [heq]
    split_ifs <;> first | omega | (exfalso; linarith)

theorem nearestInt_neg (x : ℝ) : nearestInt (-x) = -nearestInt x := by
  rcases eq_or_ne (Int.fract x) 0 with hz | hz
  · have hx : x = ⌊x⌋ := by linarith [Int.floor_add_fract x]
    rw [hx, ← Int.cast_neg, nearestInt_intCast, nearestInt_intCast]
  · have hf : Int.fract (-x) = 1 - Int.fract x := Int.fract_neg hz
    have hfloor : ⌊-x⌋ = -⌊x⌋ - 1 := by
      have h : ((⌊-x⌋ : ℤ) : ℝ) = ((-⌊x⌋ - 1 : ℤ) : ℝ) := by
        push_cast
        linarith [Int.floor_add_fract x, Int.floor_add_fract (-x)]
      exact_mod_cast h
    unfold nearestInt
    rw [hf, hfloor]
    split_ifs <;> first | omega | (exfalso; linarith)

theorem two_zpow_pos (k : ℤ) : (0 : ℝ) < 2 ^ k := zpow_pos (by norm_num) k

theorem two_zpow_add (a b : ℤ) : (2 : ℝ) ^ (a + b) = 2 ^ a * 2 ^ b :=
  zpow_add₀ (by norm_num) a b

theorem unitExponent_neg (x : ℝ) : unitExponent (-x) = unitExponent x := by
  rw [unitExponent, unitExponent, abs_neg]

theorem nearest_neg (x : ℝ) : nearest (-x) = -nearest x := by
  rw [nearest, unitExponent_neg, neg_div, nearestInt_neg, nearest]
  push_cast
  ring

theorem nearest_zero : nearest 0 = 0 := by
  have h := nearestInt_intCast 0
  rw [Int.cast_zero] at h
  rw [nearest, zero_div, h, Int.cast_zero, zero_mul]

theorem nearest_nonneg {x : ℝ} (h : 0 ≤ x) : 0 ≤ nearest x := by
  have hpos := two_zpow_pos (unitExponent x)
  have hn : 0 ≤ nearestInt (x / 2 ^ unitExponent x) :=
    (Int.floor_nonneg.mpr (by positivity)).trans (floor_le_nearestInt _)
  exact mul_nonneg (by exact_mod_cast hn) hpos.le

theorem log_lt_iff {x : ℝ} (hx : 0 < x) (k : ℤ) : Int.log 2 x < k ↔ x < 2 ^ k := by
  have h := Int.lt_zpow_iff_log_lt (R := ℝ) (b := 2) (by norm_num) (x := k) hx
  simpa using h.symm

theorem unitExponent_eq {x : ℝ} {k : ℤ} (hlo : 2 ^ k ≤ x) (hhi : x < 2 ^ (k + 1)) :
    unitExponent x = max (k - 52) (-1074) := by
  have hx : 0 < x := (two_zpow_pos k).trans_le hlo
  have h₁ := (log_lt_iff hx (k + 1)).mpr hhi
  have h₂ := (log_lt_iff hx k).not.mpr (not_lt.mpr hlo)
  rw [unitExponent, abs_of_pos hx]
  congr 2
  omega

theorem nearest_of_unit_le {x : ℝ} {n k : ℤ} (hx : x = n * 2 ^ k) (h : unitExponent x ≤ k) :
    nearest x = x := by
  have hq : x / 2 ^ unitExponent x = ((n * 2 ^ (k - unitExponent x).toNat : ℤ) : ℝ) := by
    rw [div_eq_iff (two_zpow_pos _).ne']
    push_cast
    rw [mul_assoc, ← zpow_natCast, ← two_zpow_add, Int.toNat_of_nonneg (by omega),
      Int.sub_add_cancel]
    exact hx
  rw [nearest, hq, nearestInt_intCast, ← hq, div_mul_cancel₀ _ (two_zpow_pos _).ne']

theorem unitExponent_le_of_lt {x : ℝ} {k : ℤ} (hx : x ≠ 0) (hk : -1074 ≤ k)
    (h : |x| < 2 ^ (k + 53)) : unitExponent x ≤ k := by
  have hl := (log_lt_iff (abs_pos.mpr hx) (k + 53)).mpr h
  unfold unitExponent
  omega

theorem OnGrid.nearest_eq {x : ℝ} (h : OnGrid x) : nearest x = x := by
  obtain ⟨n, k, hn, hk, hx⟩ := h
  by_cases hz : x = 0
  · rw [hz, nearest_zero]
  · refine nearest_of_unit_le hx (unitExponent_le_of_lt hz hk ?_)
    have hn' : |(n : ℝ)| < 2 ^ (53 : ℤ) := by exact_mod_cast hn
    rw [hx, abs_mul, abs_of_pos (two_zpow_pos k), add_comm, two_zpow_add]
    exact mul_lt_mul_of_pos_right hn' (two_zpow_pos k)

theorem le_nearest_of_unit {x : ℝ} {n : ℤ} (h : n * 2 ^ unitExponent x ≤ x) :
    n * 2 ^ unitExponent x ≤ nearest x := by
  have hpos := two_zpow_pos (unitExponent x)
  have hn := nearestInt_mono ((le_div_iff₀ hpos).mpr h)
  rw [nearestInt_intCast] at hn
  exact mul_le_mul_of_nonneg_right (by exact_mod_cast hn) hpos.le

theorem nearest_le_of_unit {x : ℝ} {n : ℤ} (h : x ≤ n * 2 ^ unitExponent x) :
    nearest x ≤ n * 2 ^ unitExponent x := by
  have hpos := two_zpow_pos (unitExponent x)
  have hn := nearestInt_mono ((div_le_iff₀ hpos).mpr h)
  rw [nearestInt_intCast] at hn
  exact mul_le_mul_of_nonneg_right (by exact_mod_cast hn) hpos.le

theorem natPow_mul_unit {k u : ℤ} (h : u ≤ k) :
    (((2 ^ (k - u).toNat : ℤ) : ℝ)) * 2 ^ u = 2 ^ k := by
  push_cast
  rw [← zpow_natCast, ← two_zpow_add, Int.toNat_of_nonneg (by omega), Int.sub_add_cancel]

theorem nearest_le_two_zpow {x : ℝ} {k : ℤ} (hx : 0 ≤ x) (hk : -1074 ≤ k) (h : x ≤ 2 ^ k) :
    nearest x ≤ 2 ^ k := by
  by_cases hz : x = 0
  · rw [hz, nearest_zero]
    exact (two_zpow_pos k).le
  · have hlt : |x| < 2 ^ (k + 53) := by
      rw [abs_of_nonneg hx]
      exact h.trans_lt (zpow_lt_zpow_right₀ (by norm_num) (by omega))
    have hu := unitExponent_le_of_lt hz hk hlt
    rw [← natPow_mul_unit hu] at h ⊢
    exact nearest_le_of_unit h

theorem two_zpow_le_nearest {x : ℝ} {k : ℤ} (h : 2 ^ k ≤ x) (hk : -1074 ≤ k) :
    2 ^ k ≤ nearest x := by
  have hx : 0 < x := (two_zpow_pos k).trans_le h
  by_cases hu : unitExponent x ≤ k
  · rw [← natPow_mul_unit hu] at h ⊢
    exact le_nearest_of_unit h
  · have hlog : unitExponent x = Int.log 2 x - 52 := by
      rw [unitExponent, abs_of_pos hx] at hu ⊢
      omega
    have hself := (log_lt_iff hx (Int.log 2 x)).not.mp (lt_irrefl _)
    have hle : unitExponent x ≤ Int.log 2 x := by omega
    rw [not_lt, ← natPow_mul_unit hle] at hself
    have hn := le_nearest_of_unit hself
    rw [natPow_mul_unit hle] at hn
    exact (zpow_le_zpow_right₀ (by norm_num) (by omega)).trans hn

theorem nearest_mono_nonneg {x y : ℝ} (hx : 0 ≤ x) (h : x ≤ y) : nearest x ≤ nearest y := by
  rcases hx.eq_or_lt with rfl | hx
  · rw [nearest_zero]
    exact nearest_nonneg h
  · have hy : 0 < y := hx.trans_le h
    have hlog : Int.log 2 x ≤ Int.log 2 y := Int.log_mono_right hx h
    by_cases hu : unitExponent x = unitExponent y
    · have hpos := two_zpow_pos (unitExponent y)
      have hn := nearestInt_mono (div_le_div_of_nonneg_right h hpos.le)
      rw [nearest, nearest, hu]
      exact mul_le_mul_of_nonneg_right (by exact_mod_cast hn) hpos.le
    · -- the powers of two between them keep numbers of different units apart
      have hsplit : Int.log 2 x < Int.log 2 y ∧ -1074 ≤ Int.log 2 y := by
        rw [unitExponent, unitExponent, abs_of_pos hx, abs_of_pos hy] at hu
        omega
      have hxk := (log_lt_iff hx _).mp hsplit.1
      have hyk := (log_lt_iff hy (Int.log 2 y)).not.mp (lt_irrefl _)
      exact (nearest_le_two_zpow hx.le hsplit.2 hxk.le).trans
        (two_zpow_le_nearest (not_lt.mp hyk) hsplit.2)

theorem nearest_mono {x y : ℝ} (h : x ≤ y) : nearest x ≤ nearest y := by
  rcases le_or_gt 0 x with hx | hx
  · exact nearest_mono_nonneg hx h
  · have hx' : nearest x = -nearest (-x) := by rw [nearest_neg, neg_neg]
    rcases le_or_gt 0 y with hy | hy
    · have h₁ := nearest_nonneg (neg_nonneg.mpr hx.le)
      have h₂ := nearest_nonneg hy
      linarith
    · have hy' : nearest y = -nearest (-y) := by rw [nearest_neg, neg_neg]
      have hn := nearest_mono_nonneg (neg_nonneg.mpr hy.le) (neg_le_neg h)
      linarith

theorem limit_pos : 0 < limit := two_zpow_pos 1024

theorem rounded_coe (x : ℝ) : rounded x = overflow (nearest x) := rfl

theorem overflow_of_abs_lt {x : ℝ} (h : |x| < limit) : overflow x = x := by
  obtain ⟨hlo, hhi⟩ := abs_lt.mp h
  rw [overflow, if_neg (not_le.mpr hhi), if_neg (not_le.mpr hlo)]

theorem overflow_neg (x : ℝ) : overflow (-x) = -overflow x := by
  have hpos := limit_pos
  unfold overflow
  split_ifs <;> first | rfl | (exfalso; linarith)

theorem overflow_mono {x y : ℝ} (h : x ≤ y) : overflow x ≤ overflow y := by
  have hpos := limit_pos
  unfold overflow
  split_ifs <;>
    first
    | exact le_top
    | exact bot_le
    | exact EReal.coe_le_coe_iff.mpr h
    | (exfalso; linarith)

theorem rounded_mono {x y : EReal} (h : x ≤ y) : rounded x ≤ rounded y := by
  induction x with
  | bot => exact bot_le
  | top =>
      rw [top_le_iff] at h
      rw [h]
  | coe x =>
      induction y with
      | bot => exact absurd h (not_le.mpr (EReal.bot_lt_coe x))
      | top => exact le_top
      | coe y => exact overflow_mono (nearest_mono (EReal.coe_le_coe_iff.mp h))

theorem nearestInt_of_half_lt {x : ℝ} (h : 1 / 2 < Int.fract x) : nearestInt x = ⌊x⌋ + 1 := by
  rw [nearestInt, if_neg (not_lt.mpr h.le), if_pos h]

theorem one_lt_nearest {x : ℝ} (h : 1 + 2 ^ (-53 : ℤ) < x) : 1 < nearest x := by
  have hunit : (1 : ℝ) < 1 + 2 ^ (-52 : ℤ) := lt_add_of_pos_right 1 (two_zpow_pos _)
  rcases le_or_gt (1 + 2 ^ (-52 : ℤ)) x with hle | hlt
  · have hgrid : OnGrid (1 + 2 ^ (-52 : ℤ)) :=
      ⟨2 ^ 52 + 1, -52, by norm_num, by norm_num, by norm_num⟩
    have hnearest := nearest_mono hle
    rw [hgrid.nearest_eq] at hnearest
    exact hunit.trans_le hnearest
  · -- in the upper half between one and its neighbour
    norm_num at h hlt
    have hexp : unitExponent x = -52 :=
      unitExponent_eq (k := 0) (by norm_num; linarith) (by norm_num; linarith)
    have hfloor : ⌊x / 2 ^ (-52 : ℤ)⌋ = 2 ^ 52 := by
      rw [Int.floor_eq_iff]
      norm_num
      constructor <;> linarith
    have hfract : 1 / 2 < Int.fract (x / 2 ^ (-52 : ℤ)) := by
      rw [Int.fract, hfloor]
      norm_num
      linarith
    rw [nearest, hexp, nearestInt_of_half_lt hfract, hfloor]
    norm_num

theorem one_lt_rounded {x : ℝ} (h : 1 + 2 ^ (-53 : ℤ) < x) : 1 < rounded x := by
  have hnearest := one_lt_nearest h
  have hpos := limit_pos
  rw [rounded_coe, overflow]
  split_ifs with htop hbot
  · exact EReal.coe_lt_top 1
  · linarith
  · exact_mod_cast hnearest

theorem OnGrid.exists_common_unit {x y : ℝ} (hx : OnGrid x) (hy : OnGrid y) (h : y < x) :
    ∃ m n k : ℤ, x = m * 2 ^ k ∧ y = n * 2 ^ k ∧ n < 2 ^ 53 := by
  obtain ⟨m, j, hm, -, rfl⟩ := hx
  obtain ⟨n, k, hn, -, rfl⟩ := hy
  rcases le_total k j with hkj | hjk
  · refine ⟨m * 2 ^ (j - k).toNat, n, k, ?_, rfl, (abs_lt.mp hn).2⟩
    rw [← natPow_mul_unit hkj]
    push_cast
    ring
  · have hy : (n : ℝ) * 2 ^ k = (n * 2 ^ (k - j).toNat : ℤ) * 2 ^ j := by
      rw [← natPow_mul_unit hjk]
      push_cast
      ring
    refine ⟨m, n * 2 ^ (k - j).toNat, j, rfl, hy, ?_⟩
    rw [hy] at h
    have hlt := lt_of_mul_lt_mul_right h (two_zpow_pos j).le
    exact lt_trans (by exact_mod_cast hlt) (abs_lt.mp hm).2

theorem OnGrid.ratio_gap {x y : ℝ} (hx : OnGrid x) (hy : OnGrid y) (hpos : 0 < y) (h : y < x) :
    1 + 2 ^ (-53 : ℤ) < x / y := by
  obtain ⟨m, n, k, rfl, rfl, hn⟩ := hx.exists_common_unit hy h
  have hk := two_zpow_pos k
  have hnpos : (0 : ℝ) < n := pos_of_mul_pos_left hpos hk.le
  have hstep : (n : ℝ) + 1 ≤ m := by exact_mod_cast lt_of_mul_lt_mul_right h hk.le
  have hpart : (n : ℝ) * 2 ^ (-53 : ℤ) < 1 := by
    have hn' : (n : ℝ) < 2 ^ 53 := by exact_mod_cast hn
    norm_num
    linarith
  rw [mul_div_mul_right _ _ hk.ne', lt_div_iff₀ hnpos]
  linarith

theorem Representable.rounded_eq {v : EReal} (h : Representable v) : rounded v = v := by
  rcases h with rfl | rfl | ⟨x, rfl, hgrid, hlt⟩
  · rfl
  · rfl
  · rw [rounded_coe, hgrid.nearest_eq, overflow_of_abs_lt hlt]

theorem Representable.rounded_le {v x : EReal} (h : Representable v) (hx : x ≤ v) :
    rounded x ≤ v := by
  rw [← h.rounded_eq]
  exact rounded_mono hx

theorem Representable.le_rounded {v x : EReal} (h : Representable v) (hx : v ≤ x) :
    v ≤ rounded x := by
  rw [← h.rounded_eq]
  exact rounded_mono hx

theorem Representable.one_lt_rounded_div {v w : EReal} (hv : Representable v) (hw : Representable w)
    (hpos : 0 < w) (h : w < v) : 1 < rounded (v / w) := by
  obtain rfl | rfl | ⟨y, rfl, hy, -⟩ := hw
  · exact absurd hpos (not_lt.mpr bot_le)
  · exact absurd h (not_lt.mpr le_top)
  obtain rfl | rfl | ⟨x, rfl, hx, -⟩ := hv
  · exact absurd h (not_lt.mpr bot_le)
  · rw [EReal.top_div_of_pos_ne_top hpos (EReal.coe_ne_top y)]
    exact EReal.coe_lt_top 1
  · rw [← EReal.coe_div]
    exact one_lt_rounded (hx.ratio_gap hy (by exact_mod_cast hpos) (by exact_mod_cast h))

theorem onGrid_intCast {n : ℤ} (h : |n| < 2 ^ 53) : OnGrid n := ⟨n, 0, h, by norm_num, by simp⟩

theorem OnGrid.neg {x : ℝ} (h : OnGrid x) : OnGrid (-x) := by
  obtain ⟨n, k, hn, hk, rfl⟩ := h
  exact ⟨-n, k, by rwa [abs_neg], hk, by push_cast; ring⟩

end SiteSafety.Rounding
