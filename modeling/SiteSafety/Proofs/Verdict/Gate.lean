import SiteSafety.Proofs.Verdict.Potential

namespace SiteSafety

open FloatValue

namespace RiskCoordinate

variable {c : RiskCoordinate}

def Proper (c : RiskCoordinate) : Prop :=
  c.rmin.isNaN = false ∧ c.rmax.isNaN = false ∧ value c.rmin < value c.rmax

def Inside (c : RiskCoordinate) : Prop :=
  c.rmin.isNaN = false ∧ c.risk.isNaN = false ∧ c.rmax.isNaN = false ∧
    value c.rmin ≤ value c.risk ∧ value c.risk ≤ value c.rmax

theorem hasCorridor_iff : c.hasCorridor = true ↔ c.Proper := by
  rw [hasCorridor, decide_eq_true_iff, gt_iff_lt, lt_iff, Proper]

theorem isInside_iff_inside : c.isInside = true ↔ c.Inside := by
  rw [isInside_iff, le_iff, le_iff, Inside]
  tauto

theorem outside_iff : c.Outside ↔ ¬ c.Inside := by
  rw [← isInside_iff_inside, Bool.not_eq_true, Outside]

end RiskCoordinate

/-- There is a coordinate, and each has its corridor. -/
def Corridors (cs : List RiskCoordinate) : Prop := cs ≠ [] ∧ ∀ c ∈ cs, c.Proper

variable {prev next : PotentialState} {cs : List RiskCoordinate}

theorem corridorsPresent_iff : corridorsPresent cs = true ↔ Corridors cs := by
  rw [corridorsPresent, Bool.and_eq_true, Bool.not_eq_true', List.isEmpty_eq_false_iff,
    List.all_eq_true]
  simp only [RiskCoordinate.hasCorridor_iff, Corridors]

theorem corridorsPresent_eq_false_iff :
    corridorsPresent cs = false ↔ cs = [] ∨ ∃ c ∈ cs, ¬ c.Proper := by
  rw [← Bool.not_eq_true, corridorsPresent_iff, Corridors, not_and_or, not_not]
  push Not
  rfl

theorem forall_isInside_iff : (∀ c ∈ cs, c.isInside = true) ↔ ∀ c ∈ cs, c.Inside := by
  simp only [RiskCoordinate.isInside_iff_inside]

theorem firstAt_outside_iff {i : ℕ} {c : RiskCoordinate} :
    FirstAt RiskCoordinate.Outside cs i c ↔ FirstAt (fun d => ¬ d.Inside) cs i c := by
  have h : RiskCoordinate.Outside = fun d => ¬ d.Inside :=
    funext fun _ => propext RiskCoordinate.outside_iff
  rw [h]

theorem acceptsStep_iff :
    acceptsStep prev next cs = true ↔ (∀ c ∈ cs, c.isInside = true) ∧ potentialGrows prev next = false := by
  rw [acceptsStep, Bool.and_eq_true, List.all_eq_true, Bool.not_eq_true']

namespace StabilityVerdict

theorem ofStep_eq_corridorBreach {i : ℕ} {risk rmin rmax : Float} :
    ofStep prev next cs = corridorBreach i risk rmin rmax ↔ Corridors cs ∧
      ∃ c, FirstAt (fun d => ¬ d.Inside) cs i c ∧ risk = c.risk ∧ rmin = c.rmin ∧ rmax = c.rmax := by
  simp only [ofStep_eq_iff, ← corridorsPresent_iff, ← firstAt_outside_iff]
  constructor
  · intro h
    cases h with
    | breach hpresent hc => exact ⟨hpresent, _, hc, rfl, rfl, rfl⟩
  · rintro ⟨hpresent, c, hc, rfl, rfl, rfl⟩
    exact .breach hpresent hc

theorem ofStep_eq_potentialIncrease {p v : Float} :
    ofStep prev next cs = potentialIncrease p v ↔ Corridors cs ∧ (∀ c ∈ cs, c.Inside) ∧
      Grows prev next ∧ p = prev.value ∧ v = next.value := by
  rw [ofStep_eq_iff, ← corridorsPresent_iff, ← forall_isInside_iff, ← potentialGrows_iff]
  constructor
  · intro h
    cases h with
    | growth hpresent hin hgrows => exact ⟨hpresent, hin, hgrows, rfl, rfl⟩
  · rintro ⟨hpresent, hin, hgrows, rfl, rfl⟩
    exact .growth hpresent hin hgrows

/-- The verdict of a step, exactly. It is safe if there are corridors and the gate without reasons accepts
the step. Corridors are missing if there is no coordinate, or one without room between two numbers. Else
the first coordinate that is not inside is a breach, with its place and its numbers, and if all are inside,
the growth of the potential between exterior steps is reported with both potentials. -/
theorem ofStep_refines (prev next : PotentialState) (cs : List RiskCoordinate) :
    (ofStep prev next cs = safe ↔ corridorsPresent cs = true ∧ acceptsStep prev next cs = true) ∧
    (ofStep prev next cs = noCorridor ↔ cs = [] ∨ ∃ c ∈ cs, ¬ c.Proper) ∧
    ((∃ i risk rmin rmax, ofStep prev next cs = corridorBreach i risk rmin rmax) ↔
      Corridors cs ∧ ∃ c ∈ cs, ¬ c.Inside) ∧
    (∀ i risk rmin rmax, ofStep prev next cs = corridorBreach i risk rmin rmax ↔ Corridors cs ∧
      ∃ c, FirstAt (fun d => ¬ d.Inside) cs i c ∧ risk = c.risk ∧ rmin = c.rmin ∧ rmax = c.rmax) ∧
    ∀ p v, ofStep prev next cs = potentialIncrease p v ↔ Corridors cs ∧ (∀ c ∈ cs, c.Inside) ∧
      Grows prev next ∧ p = prev.value ∧ v = next.value := by
  refine ⟨?_, ?_, ?_, fun _ _ _ _ => ofStep_eq_corridorBreach, fun _ _ => ofStep_eq_potentialIncrease⟩
  · rw [ofStep_eq_safe, acceptsStep_iff]
  · rw [← corridorsPresent_eq_false_iff]
    exact ⟨corridorsPresent_of_noCorridor, fun h => (Finds.noCorridor h).eq⟩
  · rw [← exists_firstAt]
    simp only [ofStep_eq_corridorBreach]
    constructor
    · rintro ⟨i, _, _, _, hpresent, c, hc, -⟩
      exact ⟨hpresent, i, c, hc⟩
    · rintro ⟨hpresent, i, c, hc⟩
      exact ⟨i, c.risk, c.rmin, c.rmax, hpresent, c, hc, rfl, rfl, rfl⟩

end StabilityVerdict

theorem potentialGrows_exterior (hprev : prev.interior = false) (hnext : next.interior = false) :
    potentialGrows prev next = false ↔ prev.value.isNaN = true ∨ next.value.isNaN = true ∨
      next.value ≤ prev.value + growthSlack := by
  rw [← Bool.not_eq_true, potentialGrows_iff, Grows, le_iff, isNaN_add_growthSlack_eq]
  simp only [hprev, hnext, true_and]
  cases prev.value.isNaN <;> cases next.value.isNaN <;> simp

theorem acceptsStep_of_safe (h : StabilityVerdict.ofStep prev next cs = .safe) :
    acceptsStep prev next cs = true :=
  acceptsStep_iff.mpr (StabilityVerdict.ofStep_eq_safe.mp h).2

/-- What an accepted step between exterior states says of its potentials. Beside risks inside their
corridors it is that the new one is at most the old one with the slack, or else that one of the two is a
NaN. The potential of coordinates with finite risks and weights is none, so that over a number such a step
is closed. -/
theorem exterior_step (prev next : PotentialState) (cs : List RiskCoordinate)
    (hprev : prev.interior = false) (hnext : next.interior = false) :
    (acceptsStep prev next cs = true ↔ (∀ c ∈ cs, c.Inside) ∧ (prev.value.isNaN = true ∨
      next.value.isNaN = true ∨ next.value ≤ prev.value + growthSlack)) ∧
    (StabilityVerdict.ofStep prev next cs = .safe → acceptsStep prev next cs = true) ∧
    (acceptsStep prev next cs = true → prev.value.isNaN = false →
      potentialOf cs = .ok next.value →
      (∀ c ∈ cs, c.risk.isFinite = true ∧ c.weight.isFinite = true) →
      next.value ≤ prev.value + growthSlack) := by
  have haccepts : acceptsStep prev next cs = true ↔ (∀ c ∈ cs, c.Inside) ∧
      (prev.value.isNaN = true ∨ next.value.isNaN = true ∨
        next.value ≤ prev.value + growthSlack) := by
    rw [acceptsStep_iff, forall_isInside_iff, potentialGrows_exterior hprev hnext]
  refine ⟨haccepts, acceptsStep_of_safe, fun haccepted hnumber hpotential hfinite => ?_⟩
  have hweights : ∀ c ∈ cs, ¬ c.Negative := by
    intro c hc hnegative
    obtain ⟨i, d, hd⟩ := exists_firstAt.mpr ⟨c, hc, hnegative⟩
    rw [potentialOf_eq_error.mpr ⟨d, hd, rfl⟩] at hpotential
    cases hpotential
  have hsum : energySum cs = next.value :=
    Except.ok.inj ((potentialFrom_eq hweights 0 0).symm.trans hpotential)
  have hnonneg := energySum_nonneg fun c hc => ⟨(hfinite c hc).1, (hfinite c hc).2, hweights c hc⟩
  rw [hsum] at hnonneg
  obtain ⟨-, hnan | hnan | hle⟩ := haccepts.mp haccepted
  · exact absurd hnan (by rw [hnumber]; exact Bool.false_ne_true)
  · exact absurd hnan (by rw [(zero_le_iff.mp hnonneg).1]; exact Bool.false_ne_true)
  · exact hle

theorem exterior_step_constant :
    acceptsStep ⟨1, false⟩ ⟨1, false⟩ [⟨1, 1, 0, 1⟩] = true ∧ (1 : Float) ≤ 1 + growthSlack := by
  have haccepted : acceptsStep ⟨1, false⟩ ⟨1, false⟩ [⟨1, 1, 0, 1⟩] = true := by decide +kernel
  have hpotential : potentialOf [⟨1, 1, 0, 1⟩] = .ok 1 := by decide +kernel
  have hfinite : ∀ c ∈ [(⟨1, 1, 0, 1⟩ : RiskCoordinate)],
      c.risk.isFinite = true ∧ c.weight.isFinite = true := by
    decide +kernel
  obtain ⟨-, -, hclosed⟩ := exterior_step ⟨1, false⟩ ⟨1, false⟩ [⟨1, 1, 0, 1⟩] rfl rfl
  exact ⟨haccepted, hclosed haccepted rfl hpotential hfinite⟩

/-- A step to the undefined potential of a coordinate that passed its checks, from a number, is accepted
between exterior states, by both gates. -/
theorem undefined_step_accepted :
    RiskCoordinate.unit 0 (1 / 0) = .ok boundlessCoordinate ∧
      potentialOf [boundlessCoordinate] = .ok (0 / 0) ∧
      acceptsStep ⟨1, false⟩ ⟨0 / 0, false⟩ [boundlessCoordinate] = true ∧
      StabilityVerdict.ofStep ⟨1, false⟩ ⟨0 / 0, false⟩ [boundlessCoordinate] = .safe ∧
      ¬ (0 / 0 : Float) ≤ 1 + growthSlack := by
  decide +kernel

end SiteSafety
