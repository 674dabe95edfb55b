import SiteSafety.Proofs.Float.Bounds

namespace SiteSafety.Unpacked

open Float.Model Float.Model.UnpackedFloat

theorem valueOf_neg (u : UnpackedFloat) : valueOf u.neg = -valueOf u := by
  cases u with
  | notANumber | zero s => exact neg_zero.symm
  | infinity s => cases s <;> rfl
  | finite s m e hm =>
      rw [UnpackedFloat.neg, valueOf, valueOf, ← EReal.coe_neg]
      cases s with
      | negative => rw [signed, neg_neg]; rfl
      | positive => rfl

theorem sub_eq_add_neg (a b : UnpackedFloat) :
    UnpackedFloat.sub Format.binary64 a b = UnpackedFloat.add Format.binary64 a b.neg := by
  cases a with
  | notANumber => rfl
  | infinity s => cases b <;> rfl
  | zero s => cases b <;> rfl
  | finite s m d hm =>
      cases b with
      | notANumber | infinity t | zero t => rfl
      | finite t n e hn =>
          have hsign (k : ℤ) : (-t).apply k = -t.apply k := by
            cases t with
            | negative => exact (neg_neg k).symm
            | positive => rfl
          simp only [UnpackedFloat.sub, UnpackedFloat.neg, UnpackedFloat.add, hsign, Int.sub_eq_add_neg]

end SiteSafety.Unpacked

namespace SiteSafety.FloatValue

open Float.Model Float.Model.UnpackedFloat Rounding Unpacked

section Subtraction

variable {x y : Float}

theorem unpack_neg (x : Float) : (-x).toModel.unpack = x.toModel.unpack.neg := by
  have hcanonical := canonical x
  have hfits := fits x
  refine unpack_pack ?_ ?_
  · cases hx : x.toModel.unpack <;> rw [hx] at hcanonical <;> exact hcanonical
  · cases hx : x.toModel.unpack <;> rw [hx] at hfits <;> exact hfits

theorem value_neg (x : Float) : value (-x) = -value x := by
  rw [value, value, unpack_neg, valueOf_neg]

theorem isNaN_neg (x : Float) : (-x).isNaN = x.isNaN := by
  change (-x).toModel.unpack.isNaN = x.toModel.unpack.isNaN
  rw [unpack_neg]
  cases x.toModel.unpack <;> rfl

theorem isFinite_neg (x : Float) : (-x).isFinite = x.isFinite := by
  change (-x).toModel.unpack.isFinite = x.toModel.unpack.isFinite
  rw [unpack_neg]
  cases x.toModel.unpack <;> rfl

theorem sub_eq (x y : Float) : x - y = x + -y := by
  change Float.ofModel (.pack (UnpackedFloat.sub Format.binary64 x.toModel.unpack y.toModel.unpack)) =
    Float.ofModel (.pack (UnpackedFloat.add Format.binary64 x.toModel.unpack (-y).toModel.unpack))
  rw [unpack_neg, sub_eq_add_neg]

theorem value_sub (h : (x - y).isNaN = false) : value (x - y) = rounded (value x - value y) := by
  rw [sub_eq] at h ⊢
  rw [value_add h, value_neg]
  rfl

end Subtraction

section Operands

variable {x y : Float}

theorem isFinite_of_isFinite_sub (h : (x - y).isFinite = true) :
    x.isFinite = true ∧ y.isFinite = true := by
  rw [sub_eq] at h
  have hfinite := isFinite_of_isFinite_add h
  rwa [isFinite_neg] at hfinite

theorem isFinite_of_isFinite_foldl {xs : List Float} {a : Float}
    (h : (xs.foldl (· + ·) a).isFinite = true) : a.isFinite = true ∧ ∀ x ∈ xs, x.isFinite = true := by
  induction xs generalizing a with
  | nil => exact ⟨h, nofun⟩
  | cons x xs ih =>
      obtain ⟨hsum, hxs⟩ := ih h
      obtain ⟨ha, hx⟩ := isFinite_of_isFinite_add hsum
      exact ⟨ha, List.forall_mem_cons.mpr ⟨hx, hxs⟩⟩

theorem ne_infinite_of_rounded {v : EReal} (hbot : rounded v ≠ ⊥) (htop : rounded v ≠ ⊤) :
    v ≠ ⊥ ∧ v ≠ ⊤ :=
  ⟨fun hv => hbot (by rw [hv]; rfl), fun hv => htop (by rw [hv]; rfl)⟩

theorem isFinite_of_not_infinite (hx : x.isNaN = false) (h : ¬ (value x = ⊤ ∨ value x = ⊥)) :
    x.isFinite = true :=
  isFinite_iff.mpr ⟨hx, fun hv => h (.inr hv), fun hv => h (.inl hv)⟩

theorem infinite_mul {v w : EReal} (hv : v = ⊤ ∨ v = ⊥) (hw : w ≠ 0) : v * w = ⊤ ∨ v * w = ⊥ := by
  rcases hv with rfl | rfl
  · rcases lt_or_gt_of_ne hw with hneg | hpos
    · exact .inr (EReal.top_mul_of_neg hneg)
    · exact .inl (EReal.top_mul_of_pos hpos)
  · rcases lt_or_gt_of_ne hw with hneg | hpos
    · exact .inl (EReal.bot_mul_of_neg hneg)
    · exact .inr (EReal.bot_mul_of_pos hpos)

theorem isNaN_mul_of_isFinite (hx : x.isFinite = true) (hy : y.isFinite = true) :
    (x * y).isNaN = false := by
  obtain ⟨hxnan, hxbot, hxtop⟩ := isFinite_iff.mp hx
  obtain ⟨hynan, hybot, hytop⟩ := isFinite_iff.mp hy
  rw [← Bool.not_eq_true, isNaN_mul]
  simp only [hxnan, hynan, hxbot, hxtop, hybot, hytop, Bool.false_eq_true, or_self, and_false,
    not_false_eq_true]

theorem isFinite_of_isFinite_mul (h : (x * y).isFinite = true) :
    x.isFinite = true ∧ y.isFinite = true := by
  obtain ⟨hnan, hbot, htop⟩ := isFinite_iff.mp h
  have hdefined := isNaN_mul.not.mp (by rw [hnan]; exact Bool.false_ne_true)
  simp only [not_or, not_and, Bool.not_eq_true] at hdefined
  obtain ⟨hx, hy, hzero, hzero'⟩ := hdefined
  rw [value_mul hnan] at hbot htop
  obtain ⟨hbot, htop⟩ := ne_infinite_of_rounded hbot htop
  refine ⟨isFinite_of_not_infinite hx ?_, isFinite_of_not_infinite hy ?_⟩
  · intro hinf
    by_cases hy0 : value y = 0
    · exact hinf.elim (hzero' hy0).1 (hzero' hy0).2
    · exact (infinite_mul hinf hy0).elim htop hbot
  · intro hinf
    by_cases hx0 : value x = 0
    · exact hinf.elim (hzero hx0).1 (hzero hx0).2
    · rw [mul_comm] at hbot htop
      exact (infinite_mul hinf hx0).elim htop hbot

/-- The divisor may be infinite, and is lost then. -/
theorem isFinite_of_isFinite_div (hy : 0 < y) (h : (x / y).isFinite = true) : x.isFinite = true := by
  obtain ⟨hnan, hbot, htop⟩ := isFinite_iff.mp h
  obtain ⟨-, hpos⟩ := zero_lt_iff.mp hy
  have hdefined := (isNaN_div hpos.ne').not.mp (by rw [hnan]; exact Bool.false_ne_true)
  simp only [not_or, not_and, Bool.not_eq_true] at hdefined
  obtain ⟨hx, hboth⟩ := hdefined
  rw [value_div hpos.ne' hnan] at hbot htop
  obtain ⟨hbot, htop⟩ := ne_infinite_of_rounded hbot htop
  refine isFinite_of_not_infinite hx ?_
  intro hinf
  have hinv := (EReal.inv_pos_of_pos_ne_top hpos (hboth hinf).1).ne'
  exact (infinite_mul hinf hinv).elim htop hbot

end Operands

/-- The order between two answers, if both of them are finite. -/
def LeFinite (x y : Float) : Prop := x.isFinite = true → y.isFinite = true → x ≤ y

namespace LeFinite

variable {x y z a b : Float} {xs ys : List Float}

theorem of_le (h : x ≤ y) : LeFinite x y := fun _ _ => h

theorem refl (x : Float) : LeFinite x x :=
  fun h _ => FloatValue.le_refl (isFinite_iff.mp h).1

theorem add (hab : LeFinite a b) (hxy : LeFinite x y) : LeFinite (a + x) (b + y) := by
  intro h h'
  obtain ⟨ha, hx⟩ := isFinite_of_isFinite_add h
  obtain ⟨hb, hy⟩ := isFinite_of_isFinite_add h'
  exact FloatValue.add_le_add (hab ha hb) (hxy hx hy) (isFinite_iff.mp h).1 (isFinite_iff.mp h').1

theorem sub_left (z : Float) (hxy : LeFinite x y) : LeFinite (z - y) (z - x) := by
  intro h h'
  have hle := hxy (isFinite_of_isFinite_sub h').2 (isFinite_of_isFinite_sub h).2
  have hnan := (isFinite_iff.mp h).1
  have hnan' := (isFinite_iff.mp h').1
  refine le_iff.mpr ⟨hnan, hnan', ?_⟩
  rw [value_sub hnan, value_sub hnan']
  exact rounded_mono (EReal.sub_le_sub le_rfl (le_iff.mp hle).2.2)

theorem div_right (hz : 0 < z) (hxy : LeFinite x y) : LeFinite (x / z) (y / z) := by
  intro h h'
  have hle := hxy (isFinite_of_isFinite_div hz h) (isFinite_of_isFinite_div hz h')
  have hnan := (isFinite_iff.mp h).1
  have hnan' := (isFinite_iff.mp h').1
  obtain ⟨-, hpos⟩ := zero_lt_iff.mp hz
  refine le_iff.mpr ⟨hnan, hnan', ?_⟩
  rw [value_div hpos.ne' hnan, value_div hpos.ne' hnan']
  exact rounded_mono (EReal.div_le_div_right_of_nonneg hpos.le (le_iff.mp hle).2.2)

theorem mul_left (hz : 0 ≤ z) (hxy : LeFinite x y) : LeFinite (z * x) (z * y) := by
  intro h h'
  have hle := hxy (isFinite_of_isFinite_mul h).2 (isFinite_of_isFinite_mul h').2
  have hnan := (isFinite_iff.mp h).1
  have hnan' := (isFinite_iff.mp h').1
  refine le_iff.mpr ⟨hnan, hnan', ?_⟩
  rw [value_mul hnan, value_mul hnan']
  exact rounded_mono (mul_le_mul_of_nonneg_left (le_iff.mp hle).2.2 (zero_le_iff.mp hz).2)

theorem mul_right (hz : z.isFinite = true → 0 ≤ z) (hxy : LeFinite x y) :
    LeFinite (x * z) (y * z) := by
  intro h h'
  obtain ⟨hx, hz'⟩ := isFinite_of_isFinite_mul h
  have hle := hxy hx (isFinite_of_isFinite_mul h').1
  have hnan := (isFinite_iff.mp h).1
  have hnan' := (isFinite_iff.mp h').1
  refine le_iff.mpr ⟨hnan, hnan', ?_⟩
  rw [value_mul hnan, value_mul hnan']
  exact rounded_mono (mul_le_mul_of_nonneg_right (le_iff.mp hle).2.2 (zero_le_iff.mp (hz hz')).2)

theorem foldl_add (h : List.Forall₂ LeFinite xs ys) (hab : LeFinite a b) :
    LeFinite (xs.foldl (· + ·) a) (ys.foldl (· + ·) b) := by
  induction h generalizing a b with
  | nil => exact hab
  | cons hxy _ ih => exact ih (hab.add hxy)

end LeFinite

theorem mul_nonneg_of_isFinite {x y : Float} (hx : 0 ≤ x) (hy : 0 ≤ y) (h : (x * y).isFinite = true) :
    0 ≤ x * y := by
  have hnan := (isFinite_iff.mp h).1
  refine zero_le_iff.mpr ⟨hnan, ?_⟩
  rw [value_mul hnan, ← rounded_zero]
  exact rounded_mono (mul_nonneg (zero_le_iff.mp hx).2 (zero_le_iff.mp hy).2)

end SiteSafety.FloatValue
