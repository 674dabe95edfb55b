import SiteSafety.Proofs.Certification.Cycle

namespace SiteSafety.Certification

open FloatValue

variable {rows : List Measurement} {s : Settings} {c : Certification}

def potentialSum (rows : List Measurement) (s : Settings) : Float :=
  Contaminant.all.foldl
    (fun sum k => sum + s.hazardWeights.weight k.name * riskOf rows s k * riskOf rows s k) 0

/-- What the potential is when every risk stands at the end of its corridor. -/
def totalWeight (s : Settings) : Float :=
  Contaminant.all.foldl (fun sum k => sum + s.hazardWeights.weight k.name) 0

def RisksInUnit (rows : List Measurement) (s : Settings) : Prop :=
  ∀ k, (riskOf rows s k).isNaN = false ∧ 0 ≤ value (riskOf rows s k) ∧ value (riskOf rows s k) ≤ 1

/-- Between exterior steps the potential is a number, at most the previous one with the slack added
to it in floats. -/
def NotGrown (s : Settings) (potential : Float) : Prop :=
  ∀ p, s.previousPotential = some p → s.interior.previous = false → s.interior.next = false →
    potential.isNaN = false ∧ value potential ≤ value (p + growthSlack)

theorem energySum_coordinates (rows : List Measurement) (s : Settings) :
    energySum (Contaminant.all.map (coordinateOf rows s)) = potentialSum rows s := by
  rw [energySum, List.foldl_map]
  rfl

theorem weightSum_coordinates (rows : List Measurement) (s : Settings) :
    weightSum (Contaminant.all.map (coordinateOf rows s)) = totalWeight s := by
  rw [weightSum, List.foldl_map]
  rfl

theorem risksInUnit_iff : RisksInUnit rows s ↔
    ∀ x ∈ Contaminant.all.map (coordinateOf rows s), x.isInside = true := by
  rw [forall_coordinates]
  refine forall_congr' fun k => ?_
  rw [isInside_coordinateOf, zero_le_iff, le_one_iff]
  exact ⟨fun ⟨h, hlo, hhi⟩ => ⟨⟨h, hlo⟩, h, hhi⟩, fun ⟨⟨h, hlo⟩, _, hhi⟩ => ⟨h, hlo, hhi⟩⟩

/-- No corridor admits a NaN risk, and no admissible weight brings one in. -/
theorem potentialSum_share (hs : s.Valid) (h : RisksInUnit rows s) :
    0 ≤ potentialSum rows s ∧ potentialSum rows s ≤ totalWeight s := by
  rw [← energySum_coordinates, ← weightSum_coordinates rows]
  apply energySum_share
  rw [forall_coordinates]
  intro k
  obtain ⟨hnan, hlo, hhi⟩ := h k
  exact ⟨hs.weights k.name, zero_le_iff.mpr ⟨hnan, hlo⟩, le_one_iff.mpr ⟨hnan, hhi⟩⟩

theorem notGrown_iff (hs : s.Valid) {v : Float} (hv : v.isNaN = false) :
    potentialGrows ⟨s.previousPotential.getD v, s.interior.previous⟩ ⟨v, s.interior.next⟩ = false ↔
      NotGrown s v := by
  cases hp : s.previousPotential with
  | none =>
      have h : NotGrown s v := by
        intro p h
        rw [hp] at h
        cases h
      rw [Option.getD_none]
      exact iff_of_true (potentialGrows_self v _ _) h
  | some p =>
      rw [Option.getD_some, potentialGrows_eq_false ⟨p, s.interior.previous⟩ ⟨v, s.interior.next⟩
        (isNaN_add_growthSlack (hs.previous p hp)) hv]
      constructor
      · intro h q hq hprev hnext
        rw [hp] at hq
        cases hq
        exact ⟨hv, h hprev hnext⟩
      · intro h hprev hnext
        exact (h p hp hprev hnext).2

theorem Completes.potential_eq (h : Completes rows s c) : c.potential = potentialSum rows s := by
  rw [h.potential, h.coordinates, energySum_coordinates]

theorem Completes.passed_stability (h : Completes rows s c) :
    c.stability.passed = true ↔ RisksInUnit rows s ∧ NotGrown s c.potential := by
  rw [h.stability, stabilityOf, StabilityVerdict.passed_ofStep, h.coordinates,
    and_iff_right (corridorsPresent_coordinates rows s), ← risksInUnit_iff]
  refine and_congr_right fun hrisks => ?_
  have hnan := (zero_le_iff.mp (potentialSum_share h.valid hrisks).1).1
  rw [← h.potential_eq] at hnan
  exact notGrown_iff h.valid hnan

theorem Completes.accepted (h : Completes rows s c) :
    c.accepted = true ↔
      RisksInUnit rows s ∧ s.residual.Within s.tolerances ∧ NotGrown s c.potential := by
  obtain ⟨hmass, henergy, -⟩ := h.valid.tolerances
  rw [Certification.accepted, Bool.and_eq_true, h.passed_stability, h.conservation,
    ConservationVerdict.passed_iff (isNaN_of_isFinite hmass) (isNaN_of_isFinite henergy)]
  exact and_left_comm

theorem Completes.not_potentialIncrease (h : Completes rows s c) (hfirst : s.previousPotential = none)
    (prev next : Float) : c.stability ≠ .potentialIncrease prev next := by
  intro hv
  rw [h.stability, stabilityOf, hfirst, Option.getD_none] at hv
  have hgrows := StabilityVerdict.potentialGrows_of_potentialIncrease hv
  rw [potentialGrows_self] at hgrows
  cases hgrows

theorem Completes.not_noCorridor (h : Completes rows s c) : c.stability ≠ .noCorridor := by
  intro hv
  rw [h.stability, stabilityOf, h.coordinates] at hv
  have habsent := StabilityVerdict.corridorsPresent_of_noCorridor hv
  rw [corridorsPresent_coordinates] at habsent
  cases habsent

/-- The verdict of a cycle, exactly: the three conditions, the potential they speak of, and the two
verdicts that never occur, growth in a first cycle and missing corridors. -/
theorem accepted_iff (h : ofRows rows s = .ok c) :
    (c.accepted = true ↔
      RisksInUnit rows s ∧ s.residual.Within s.tolerances ∧ NotGrown s c.potential) ∧
    c.potential = potentialSum rows s ∧
    (s.previousPotential = none → ∀ prev next, c.stability ≠ .potentialIncrease prev next) ∧
    c.stability ≠ .noCorridor := by
  have hc := completes_of_ofRows h
  refine ⟨hc.accepted, ?_, hc.not_potentialIncrease, hc.not_noCorridor⟩
  rw [hc.potential, hc.coordinates, energySum_coordinates]

theorem accepted_iff_half :
    ∃ c, ofRows [.plain .tp 0.05] { Settings.standard with previousPotential := some 1 } = .ok c ∧
      c.accepted = true ∧
      RisksInUnit [.plain .tp 0.05] { Settings.standard with previousPotential := some 1 } ∧
      NotGrown { Settings.standard with previousPotential := some 1 } c.potential := by
  have hpass : (ofRows [.plain .tp 0.05]
      { Settings.standard with previousPotential := some 1 }).toOption.any (·.accepted) = true := by
    decide +kernel
  cases h : ofRows [.plain .tp 0.05] { Settings.standard with previousPotential := some 1 } with
  | error e =>
      rw [h] at hpass
      cases hpass
  | ok c =>
      rw [h] at hpass
      obtain ⟨hrisks, -, hgrown⟩ := (accepted_iff h).1.mp hpass
      exact ⟨c, rfl, hpass, hrisks, hgrown⟩

end SiteSafety.Certification
