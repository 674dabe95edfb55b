import SiteSafety.Proofs.Float.FiniteOrder
import SiteSafety.Proofs.Verdict

namespace SiteSafety

open FloatValue

namespace FloatValue

open Rounding

variable {x y : Float}

/-- A factor that is not negative keeps the sign of the other one, also where it rounds it to zero or out
of range, so both signs of a square are the same. -/
theorem mul_mul_self_nonneg (hx : 0 ≤ x) (h : (x * y * y).isNaN = false) : 0 ≤ x * y * y := by
  refine zero_le_iff.mpr ⟨h, ?_⟩
  have hxy : (x * y).isNaN = false := by
    rw [← Bool.not_eq_true] at h ⊢
    exact fun hnan => h (isNaN_mul.mpr (.inl hnan))
  have hlo := (zero_le_iff.mp hx).2
  rw [value_mul h, value_mul hxy, ← rounded_zero]
  apply rounded_mono
  rcases le_total 0 (value y) with hy | hy
  · have hsign : 0 ≤ rounded (value x * value y) := by
      rw [← rounded_zero]
      exact rounded_mono (mul_nonneg hlo hy)
    exact mul_nonneg hsign hy
  · have hsign : rounded (value x * value y) ≤ 0 := by
      rw [← rounded_zero]
      exact rounded_mono (mul_nonpos_of_nonneg_of_nonpos hlo hy)
    rw [← neg_mul_neg]
    exact mul_nonneg (EReal.neg_nonneg.mpr hsign) (EReal.neg_nonneg.mpr hy)

/-- The first product may be out of range, but not beside a zero. -/
theorem isNaN_mul_mul_self (hx : x.isFinite = true) (hy : y.isFinite = true) :
    (x * y * y).isNaN = false := by
  have hxy := isNaN_mul_of_isFinite hx hy
  obtain ⟨hynan, hybot, hytop⟩ := isFinite_iff.mp hy
  have hzero (hy0 : value y = 0) : value (x * y) = 0 := by
    rw [value_mul hxy, hy0, mul_zero, rounded_zero]
  rw [← Bool.not_eq_true, isNaN_mul, hxy, hynan]
  rintro (h | h | ⟨-, h | h⟩ | ⟨hy0, h | h⟩)
  · cases h
  · cases h
  · exact hytop h
  · exact hybot h
  · rw [hzero hy0] at h
    exact EReal.zero_ne_top h
  · rw [hzero hy0] at h
    exact EReal.zero_ne_bot h

theorem foldl_add_isNaN_or_nonneg {α : Type} {l : List α} {f : α → Float}
    (h : ∀ x ∈ l, (f x).isNaN = true ∨ 0 ≤ f x) {a : Float} (ha : a.isNaN = true ∨ 0 ≤ a) :
    (l.foldl (fun sum x => sum + f x) a).isNaN = true ∨ 0 ≤ l.foldl (fun sum x => sum + f x) a := by
  induction l generalizing a with
  | nil => exact ha
  | cons x l ih =>
      obtain ⟨hx, hl⟩ := List.forall_mem_cons.mp h
      apply ih hl
      rcases ha with ha | ha
      · exact .inl (isNaN_add.mpr (.inl ha))
      rcases hx with hx | hx
      · exact .inl (isNaN_add.mpr (.inr (.inl hx)))
      · exact .inr (FloatValue.add_nonneg ha hx)

end FloatValue

namespace RiskCoordinate

variable {c : RiskCoordinate}

/-- What a potential refuses. A NaN weight is not below zero. -/
def Negative (c : RiskCoordinate) : Prop := c.weight < 0

def Checked (c : RiskCoordinate) : Prop :=
  (∃ risk weight rmin rmax, ofBounds risk weight rmin rmax = .ok c) ∨
    ∃ risk weight, unit risk weight = .ok c

theorem Checked.weight_nonneg (h : c.Checked) : 0 ≤ c.weight := by
  rcases h with ⟨risk, weight, rmin, rmax, h⟩ | ⟨risk, weight, h⟩
  · obtain ⟨hweight, -, rfl⟩ := ofBounds_eq_ok.mp h
    exact hweight
  · obtain ⟨hweight, -, rfl⟩ := ofBounds_eq_ok.mp h
    exact hweight

theorem energy_isNaN_or_nonneg (h : ¬ c.Negative) : c.energy.isNaN = true ∨ 0 ≤ c.energy := by
  cases hnan : c.energy.isNaN with
  | true => exact .inl rfl
  | false =>
      have hweight : c.weight.isNaN = false := by
        rw [← Bool.not_eq_true] at hnan ⊢
        exact fun hw => hnan (isNaN_mul.mpr (.inl (isNaN_mul.mpr (.inl hw))))
      exact .inr (mul_mul_self_nonneg ((not_lt_iff hweight isNaN_zero).mp h) hnan)

theorem energy_nonneg (hrisk : c.risk.isFinite = true) (hfinite : c.weight.isFinite = true)
    (h : ¬ c.Negative) : 0 ≤ c.energy :=
  mul_mul_self_nonneg ((not_lt_zero hfinite).mp h) (isNaN_mul_mul_self hfinite hrisk)

end RiskCoordinate

variable {cs : List RiskCoordinate}

theorem potentialFrom_eq_error {k : ℕ} {sum : Float} {e : NegativeWeight} :
    potentialFrom k sum cs = .error e ↔
      ∃ i c, FirstAt RiskCoordinate.Negative cs i c ∧ e = ⟨k + i, c.weight⟩ := by
  induction cs generalizing k sum with
  | nil => exact iff_of_false nofun fun ⟨_, _, h, _⟩ => not_firstAt_nil h
  | cons c cs ih =>
      rw [potentialFrom]
      split
      · next hc =>
        replace hc : c.Negative := hc
        simp only [firstAt_cons_of_pos hc]
        constructor
        · intro h
          cases h
          exact ⟨0, c, ⟨rfl, rfl⟩, rfl⟩
        · rintro ⟨_, _, ⟨rfl, rfl⟩, rfl⟩
          rfl
      · next hc =>
        replace hc : ¬ c.Negative := hc
        simp only [firstAt_cons_of_neg hc, ih]
        constructor
        · rintro ⟨i, d, hd, rfl⟩
          exact ⟨i + 1, d, ⟨i, rfl, hd⟩, by rw [Nat.add_assoc, Nat.add_comm 1 i]⟩
        · rintro ⟨_, d, ⟨i, rfl, hd⟩, rfl⟩
          exact ⟨i, d, hd, by rw [Nat.add_assoc, Nat.add_comm 1 i]⟩

theorem potentialOf_eq_error {i : ℕ} {weight : Float} :
    potentialOf cs = .error ⟨i, weight⟩ ↔
      ∃ c, FirstAt RiskCoordinate.Negative cs i c ∧ weight = c.weight := by
  rw [potentialOf, potentialFrom_eq_error]
  constructor
  · rintro ⟨j, c, h, heq⟩
    rw [Nat.zero_add] at heq
    cases heq
    exact ⟨c, h, rfl⟩
  · rintro ⟨c, h, rfl⟩
    exact ⟨i, c, h, by rw [Nat.zero_add]⟩

theorem energySum_isNaN_or_nonneg (h : ∀ c ∈ cs, ¬ c.Negative) :
    (energySum cs).isNaN = true ∨ 0 ≤ energySum cs :=
  foldl_add_isNaN_or_nonneg (fun c hc => RiskCoordinate.energy_isNaN_or_nonneg (h c hc))
    (.inr FloatValue.zero_le_zero)

theorem energySum_nonneg
    (h : ∀ c ∈ cs, c.risk.isFinite = true ∧ c.weight.isFinite = true ∧ ¬ c.Negative) :
    0 ≤ energySum cs :=
  foldl_add_nonneg (fun c hc => RiskCoordinate.energy_nonneg (h c hc).1 (h c hc).2.1 (h c hc).2.2)
    FloatValue.zero_le_zero

theorem exists_not_finite (h : ∀ c ∈ cs, ¬ c.Negative) (hnan : (energySum cs).isNaN = true) :
    ∃ c ∈ cs, c.risk.isFinite = false ∨ c.weight.isFinite = false := by
  by_contra hall
  push Not at hall
  simp only [ne_eq, Bool.not_eq_false] at hall
  have hsum := energySum_nonneg fun c hc => ⟨(hall c hc).1, (hall c hc).2, h c hc⟩
  rw [(zero_le_iff.mp hsum).1] at hnan
  cases hnan

/-- The potential of any coordinates, checked or not. It fails exactly if a weight is below zero, and
names the first such place with its weight, whatever the risks are. Else it is the sum of the shares,
which is a NaN or not below zero, and a NaN only if some risk or weight is not finite. -/
theorem potentialOf_energy (cs : List RiskCoordinate) :
    ((∃ e, potentialOf cs = .error e) ↔ ∃ c ∈ cs, c.Negative) ∧
    (∀ i weight, potentialOf cs = .error ⟨i, weight⟩ ↔
      ∃ c, FirstAt RiskCoordinate.Negative cs i c ∧ weight = c.weight) ∧
    ((∀ c ∈ cs, ¬ c.Negative) → potentialOf cs = .ok (energySum cs) ∧
      ((energySum cs).isNaN = true ∨ 0 ≤ energySum cs) ∧
      ((energySum cs).isNaN = true →
        ∃ c ∈ cs, c.risk.isFinite = false ∨ c.weight.isFinite = false)) ∧
    ((∀ c ∈ cs, c.risk.isFinite = true ∧ c.weight.isFinite = true ∧ 0 ≤ c.weight) →
      potentialOf cs = .ok (energySum cs) ∧ 0 ≤ energySum cs) ∧
    ((∀ c ∈ cs, c.Checked) → potentialOf cs = .ok (energySum cs)) := by
  refine ⟨?_, fun _ _ => potentialOf_eq_error, ?_, ?_, ?_⟩
  · rw [← exists_firstAt]
    constructor
    · rintro ⟨⟨i, weight⟩, he⟩
      obtain ⟨c, hc, -⟩ := potentialOf_eq_error.mp he
      exact ⟨i, c, hc⟩
    · rintro ⟨i, c, hc⟩
      exact ⟨_, potentialOf_eq_error.mpr ⟨c, hc, rfl⟩⟩
  · intro h
    exact ⟨potentialFrom_eq h 0 0, energySum_isNaN_or_nonneg h, exists_not_finite h⟩
  · intro h
    refine ⟨potentialOf_eq fun c hc => (h c hc).2.2, energySum_nonneg fun c hc => ?_⟩
    obtain ⟨hrisk, hweight, hle⟩ := h c hc
    exact ⟨hrisk, hweight, (not_lt_zero hweight).mpr hle⟩
  · intro h
    exact potentialOf_eq fun c hc => (h c hc).weight_nonneg

def hugeCoordinate : RiskCoordinate := ⟨-1e200, 1e200, 0, 1⟩

def boundlessCoordinate : RiskCoordinate := ⟨0, 1 / 0, 0, 1⟩

theorem potentialOf_energy_extremes :
    potentialOf [hugeCoordinate] = .ok (1 / 0) ∧ (0 : Float) ≤ 1 / 0 ∧
      potentialOf [boundlessCoordinate] = .ok (0 / 0) ∧
      ∃ c ∈ [boundlessCoordinate], c.risk.isFinite = false ∨ c.weight.isFinite = false := by
  have hfinite : hugeCoordinate.risk.isFinite = true ∧ hugeCoordinate.weight.isFinite = true ∧
      0 ≤ hugeCoordinate.weight := by
    decide +kernel
  have hweight : 0 ≤ boundlessCoordinate.weight ∧ ¬ boundlessCoordinate.weight < 0 := by
    decide +kernel
  have hchecked : ∀ c ∈ [boundlessCoordinate], c.Checked :=
    List.forall_mem_singleton.mpr (.inr ⟨0, 1 / 0, RiskCoordinate.unit_eq_ok hweight.1⟩)
  have hsum : energySum [hugeCoordinate] = 1 / 0 ∧ energySum [boundlessCoordinate] = 0 / 0 := by
    decide +kernel
  obtain ⟨-, -, -, hnumbers, -⟩ := potentialOf_energy [hugeCoordinate]
  obtain ⟨-, -, hany, -, hbuilt⟩ := potentialOf_energy [boundlessCoordinate]
  obtain ⟨hhuge, hnonneg⟩ := hnumbers (List.forall_mem_singleton.mpr hfinite)
  obtain ⟨-, -, hsource⟩ := hany (List.forall_mem_singleton.mpr hweight.2)
  rw [hsum.1] at hhuge hnonneg
  rw [hsum.2] at hsource
  exact ⟨hhuge, hnonneg, hsum.2 ▸ hbuilt hchecked, hsource rfl⟩

end SiteSafety
