import SiteSafety.Verdict
import SiteSafety.Proofs.Float.Bounds
import SiteSafety.Proofs.Validation

namespace SiteSafety

open FloatValue

/-- The residual is made of numbers, the mass within the tolerance either way and the energy at
most the tolerance. -/
structure Residual.Within (r : Residual Float) (t : Tolerances) : Prop where
  mass : r.mass.isNaN = false ∧ -value t.mass ≤ value r.mass ∧ value r.mass ≤ value t.mass
  energy : r.energy.isNaN = false ∧ value r.energy ≤ value t.energy

theorem withinMass_iff {r : Residual Float} {t : Float} (ht : t.isNaN = false) :
    withinMass r t = true ↔
      r.mass.isNaN = false ∧ -value t ≤ value r.mass ∧ value r.mass ≤ value t := by
  rw [withinMass, decide_eq_true_iff, le_iff, isNaN_abs, value_abs, max_le_iff, EReal.neg_le]
  exact ⟨fun ⟨h, _, hhi, hlo⟩ => ⟨h, hlo, hhi⟩, fun ⟨h, hlo, hhi⟩ => ⟨h, ht, hhi, hlo⟩⟩

theorem withinEnergy_iff {r : Residual Float} {t : Float} (ht : t.isNaN = false) :
    withinEnergy r t = true ↔ r.energy.isNaN = false ∧ value r.energy ≤ value t := by
  rw [withinEnergy, decide_eq_true_iff, le_iff]
  exact ⟨fun ⟨h, _, hle⟩ => ⟨h, hle⟩, fun ⟨h, hle⟩ => ⟨h, ht, hle⟩⟩

namespace ConservationVerdict

theorem passed_iff {r : Residual Float} {t : Tolerances} (hmass : t.mass.isNaN = false)
    (henergy : t.energy.isNaN = false) : (ofResidual r t).passed = true ↔ r.Within t := by
  rw [passed, Bool.and_eq_true, ofResidual, withinMass_iff hmass, withinEnergy_iff henergy]
  exact ⟨fun ⟨h, h'⟩ => ⟨h, h'⟩, fun h => ⟨h.mass, h.energy⟩⟩

theorem passed_ofResidual (r : Residual Float) (t : Tolerances) :
    (ofResidual r t).passed = conserves r t.mass t.energy := rfl

theorem reason_eq_ok {v : ConservationVerdict} : v.reason = "ok" ↔ v.passed = true := by
  rcases v with ⟨massOk, energyOk⟩
  cases massOk <;> cases energyOk <;> decide

end ConservationVerdict

def energySum (cs : List RiskCoordinate) : Float := cs.foldl (fun sum c => sum + c.energy) 0

theorem potentialFrom_eq {cs : List RiskCoordinate} (h : ∀ c ∈ cs, ¬ c.weight < 0) (i : ℕ) (sum : Float) :
    potentialFrom i sum cs = .ok (cs.foldl (fun sum c => sum + c.energy) sum) := by
  induction cs generalizing i sum with
  | nil => rfl
  | cons c cs ih =>
      obtain ⟨hc, hcs⟩ := List.forall_mem_cons.mp h
      rw [potentialFrom, if_neg hc]
      exact ih hcs (i + 1) (sum + c.energy)

theorem potentialOf_eq {cs : List RiskCoordinate} (h : ∀ c ∈ cs, 0 ≤ c.weight) :
    potentialOf cs = .ok (energySum cs) :=
  potentialFrom_eq (fun c hc => (not_lt_iff (zero_le_iff.mp (h c hc)).1 isNaN_zero).mpr (h c hc)) 0 0

namespace RiskCoordinate

theorem ofBounds_eq_ok {risk weight rmin rmax : Float} {c : RiskCoordinate} :
    ofBounds risk weight rmin rmax = .ok c ↔
      0 ≤ weight ∧ rmin < rmax ∧ c = ⟨risk, weight, rmin, rmax⟩ := by
  rw [ofBounds, ite_error_eq_ok, ite_error_eq_ok, not_not, not_not, Except.ok.injEq, eq_comm]

theorem unit_eq_ok {risk weight : Float} (h : 0 ≤ weight) :
    unit risk weight = .ok ⟨risk, weight, 0, 1⟩ :=
  ofBounds_eq_ok.mpr ⟨h, FloatValue.zero_lt_one, rfl⟩

/-- What the gate reports; a NaN risk is outside. -/
def Outside (c : RiskCoordinate) : Prop := c.isInside = false

theorem isInside_iff {c : RiskCoordinate} : c.isInside = true ↔ c.rmin ≤ c.risk ∧ c.risk ≤ c.rmax := by
  rw [isInside, Bool.and_eq_true, decide_eq_true_iff, decide_eq_true_iff]

/-- The share of a risk in the unit corridor is a part of its weight. -/
theorem energy_share {c : RiskCoordinate} (hw : AdmissibleWeight c.weight) (hlo : 0 ≤ c.risk)
    (hhi : c.risk ≤ 1) : 0 ≤ c.energy ∧ c.energy ≤ c.weight := by
  obtain ⟨hpos, hle⟩ := mul_share hw.2 hw.1 hlo hhi
  have hfin := isFinite_of_le hpos hle hw.1
  obtain ⟨hpos', hle'⟩ := mul_share hpos hfin hlo hhi
  exact ⟨hpos', FloatValue.le_trans hle' hle⟩

end RiskCoordinate

def weightSum (cs : List RiskCoordinate) : Float := cs.foldl (fun sum c => sum + c.weight) 0

theorem energySum_share {cs : List RiskCoordinate}
    (h : ∀ c ∈ cs, AdmissibleWeight c.weight ∧ 0 ≤ c.risk ∧ c.risk ≤ 1) :
    0 ≤ energySum cs ∧ energySum cs ≤ weightSum cs := by
  have hshare : ∀ c ∈ cs, 0 ≤ c.energy ∧ c.energy ≤ c.weight := by
    intro c hc
    obtain ⟨hw, hlo, hhi⟩ := h c hc
    exact RiskCoordinate.energy_share hw hlo hhi
  exact ⟨foldl_add_nonneg (fun c hc => (hshare c hc).1) FloatValue.zero_le_zero,
    foldl_add_le hshare FloatValue.zero_le_zero FloatValue.zero_le_zero⟩

theorem growthSlack_nonneg : 0 ≤ growthSlack := by
  decide +kernel

theorem isNaN_add_growthSlack_eq (p : Float) : (p + growthSlack).isNaN = p.isNaN := by
  have hslack : growthSlack.isFinite = true := by decide +kernel
  obtain ⟨hnan, hbot, htop⟩ := isFinite_iff.mp hslack
  rw [Bool.eq_iff_iff, isNaN_add, hnan]
  simp only [hbot, htop, Bool.false_eq_true, and_false, or_false]

theorem isNaN_add_growthSlack {p : Float} (h : p.isFinite = true) :
    (p + growthSlack).isNaN = false := by
  rw [isNaN_add_growthSlack_eq, isNaN_of_isFinite h]

theorem add_growthSlack_mono {p q : Float} (h : p ≤ q) (hp : (p + growthSlack).isNaN = false)
    (hq : (q + growthSlack).isNaN = false) : p + growthSlack ≤ q + growthSlack :=
  FloatValue.add_le_add h (FloatValue.le_refl (zero_le_iff.mp growthSlack_nonneg).1) hp hq

/-- The slack is lost beside the largest float, so nothing finite leaves the range by it. -/
theorem add_growthSlack_le_largest {p : Float} (h : p.isFinite = true) :
    p + growthSlack ≤ largest := by
  have hlost : largest + growthSlack = largest := by decide +kernel
  have hle := add_growthSlack_mono (le_largest h) (isNaN_add_growthSlack h)
    (isNaN_add_growthSlack rfl)
  rwa [hlost] at hle

theorem potentialGrows_self (v : Float) (prev next : Bool) :
    potentialGrows ⟨v, prev⟩ ⟨v, next⟩ = false := by
  have h : ¬ v > v + growthSlack := not_add_lt growthSlack_nonneg
  rw [potentialGrows, decide_eq_false h, Bool.and_false]

/-- Both steps are exterior, and the potential goes from a number to one that the slack does not reach. -/
def Grows (prev next : PotentialState) : Prop :=
  prev.interior = false ∧ next.interior = false ∧ (prev.value + growthSlack).isNaN = false ∧
    next.value.isNaN = false ∧ value (prev.value + growthSlack) < value next.value

theorem potentialGrows_iff {prev next : PotentialState} :
    potentialGrows prev next = true ↔ Grows prev next := by
  rw [potentialGrows, Bool.and_eq_true, Bool.and_eq_true, Bool.not_eq_true', Bool.not_eq_true',
    decide_eq_true_iff, gt_iff_lt, lt_iff, Grows, and_assoc]

theorem potentialGrows_eq_false (prev next : PotentialState)
    (hprev : (prev.value + growthSlack).isNaN = false) (hnext : next.value.isNaN = false) :
    potentialGrows prev next = false ↔ (prev.interior = false → next.interior = false →
      value next.value ≤ value (prev.value + growthSlack)) := by
  rw [← Bool.not_eq_true, potentialGrows_iff, Grows]
  simp only [hprev, hnext, true_and, not_and, not_lt]

namespace StabilityVerdict

theorem breachFrom?_eq_none {i : ℕ} {cs : List RiskCoordinate} :
    breachFrom? i cs = none ↔ ∀ c ∈ cs, c.isInside = true := by
  induction cs generalizing i with
  | nil => exact ⟨fun _ => nofun, fun _ => rfl⟩
  | cons c cs ih =>
      rw [breachFrom?, List.forall_mem_cons, ← ih (i := i + 1)]
      split
      · next h => exact (and_iff_right h).symm
      · next h => exact iff_of_false nofun (fun h' => h h'.1)

theorem breachFrom?_eq_some {k : ℕ} {cs : List RiskCoordinate} {v : StabilityVerdict} :
    breachFrom? k cs = some v ↔ ∃ i c, FirstAt RiskCoordinate.Outside cs i c ∧
      v = corridorBreach (k + i) c.risk c.rmin c.rmax := by
  induction cs generalizing k with
  | nil => exact iff_of_false nofun fun ⟨_, _, h, _⟩ => not_firstAt_nil h
  | cons c cs ih =>
      rw [breachFrom?]
      split
      · next hc =>
        have hin : ¬ c.Outside := fun hout => Bool.false_ne_true (hout.symm.trans hc)
        simp only [firstAt_cons_of_neg hin, ih]
        constructor
        · rintro ⟨i, d, hd, rfl⟩
          exact ⟨i + 1, d, ⟨i, rfl, hd⟩, by rw [Nat.add_assoc, Nat.add_comm 1 i]⟩
        · rintro ⟨_, d, ⟨i, rfl, hd⟩, rfl⟩
          exact ⟨i, d, hd, by rw [Nat.add_assoc, Nat.add_comm 1 i]⟩
      · next hc =>
        have hout : c.Outside := Bool.eq_false_iff.mpr hc
        simp only [firstAt_cons_of_pos hout]
        constructor
        · intro h
          cases h
          exact ⟨0, c, ⟨rfl, rfl⟩, rfl⟩
        · rintro ⟨_, _, ⟨rfl, rfl⟩, rfl⟩
          rfl

/-- What the gate finds, each outcome with the causes that come before it ruled out. -/
inductive Finds (prev next : PotentialState) (cs : List RiskCoordinate) : StabilityVerdict → Prop
  | noCorridor : corridorsPresent cs = false → Finds prev next cs noCorridor
  | breach {i : ℕ} {c : RiskCoordinate} : corridorsPresent cs = true →
      FirstAt RiskCoordinate.Outside cs i c →
      Finds prev next cs (corridorBreach i c.risk c.rmin c.rmax)
  | growth : corridorsPresent cs = true → (∀ c ∈ cs, c.isInside = true) →
      potentialGrows prev next = true → Finds prev next cs (potentialIncrease prev.value next.value)
  | safe : corridorsPresent cs = true → (∀ c ∈ cs, c.isInside = true) →
      potentialGrows prev next = false → Finds prev next cs safe

variable {prev next : PotentialState} {cs : List RiskCoordinate} {v : StabilityVerdict}

theorem finds_ofStep (prev next : PotentialState) (cs : List RiskCoordinate) :
    Finds prev next cs (ofStep prev next cs) := by
  unfold ofStep
  cases hpresent : corridorsPresent cs with
  | false => exact .noCorridor hpresent
  | true =>
      cases hbreach : breachFrom? 0 cs with
      | some v =>
          obtain ⟨i, c, hc, rfl⟩ := breachFrom?_eq_some.mp hbreach
          rw [Nat.zero_add]
          exact .breach hpresent hc
      | none =>
          have hin := breachFrom?_eq_none.mp hbreach
          cases hgrows : potentialGrows prev next with
          | true => exact .growth hpresent hin hgrows
          | false => exact .safe hpresent hin hgrows

theorem Finds.eq (h : Finds prev next cs v) : ofStep prev next cs = v := by
  unfold ofStep
  cases h with
  | noCorridor habsent =>
      rw [habsent]
      rfl
  | breach hpresent hc =>
      rw [hpresent, breachFrom?_eq_some.mpr ⟨_, _, hc, rfl⟩, Nat.zero_add]
      rfl
  | growth hpresent hin hgrows =>
      rw [hpresent, breachFrom?_eq_none.mpr hin, hgrows]
      rfl
  | safe hpresent hin hgrows =>
      rw [hpresent, breachFrom?_eq_none.mpr hin, hgrows]
      rfl

theorem ofStep_eq_iff : ofStep prev next cs = v ↔ Finds prev next cs v :=
  ⟨fun h => h ▸ finds_ofStep prev next cs, Finds.eq⟩

theorem corridorsPresent_of_noCorridor (h : ofStep prev next cs = noCorridor) :
    corridorsPresent cs = false := by
  cases ofStep_eq_iff.mp h with
  | noCorridor habsent => exact habsent

theorem outside_of_corridorBreach {i : ℕ} {risk rmin rmax : Float}
    (h : ofStep prev next cs = corridorBreach i risk rmin rmax) :
    ∃ c, FirstAt RiskCoordinate.Outside cs i c ∧ risk = c.risk ∧ rmin = c.rmin ∧ rmax = c.rmax := by
  cases ofStep_eq_iff.mp h with
  | breach _ hc => exact ⟨_, hc, rfl, rfl, rfl⟩

theorem potentialGrows_of_potentialIncrease {p v : Float}
    (h : ofStep prev next cs = potentialIncrease p v) : potentialGrows prev next = true := by
  cases ofStep_eq_iff.mp h with
  | growth _ _ hgrows => exact hgrows

theorem ofStep_eq_safe : ofStep prev next cs = safe ↔ corridorsPresent cs = true ∧
    (∀ c ∈ cs, c.isInside = true) ∧ potentialGrows prev next = false := by
  rw [ofStep_eq_iff]
  constructor
  · intro h
    cases h with
    | safe hpresent hin hgrows => exact ⟨hpresent, hin, hgrows⟩
  · rintro ⟨hpresent, hin, hgrows⟩
    exact .safe hpresent hin hgrows

theorem passed_iff_safe {v : StabilityVerdict} : v.passed = true ↔ v = safe := by
  cases v with
  | safe => exact iff_of_true rfl rfl
  | noCorridor | corridorBreach | potentialIncrease => exact iff_of_false nofun nofun

theorem passed_ofStep : (ofStep prev next cs).passed = true ↔ corridorsPresent cs = true ∧
    (∀ c ∈ cs, c.isInside = true) ∧ potentialGrows prev next = false :=
  passed_iff_safe.trans ofStep_eq_safe

theorem append_ne_ok {text : String} (h : 2 < text.length) (rest : String) : text ++ rest ≠ "ok" := by
  intro heq
  have hlen := congrArg String.length heq
  rw [String.length_append] at hlen
  change text.length + rest.length = 2 at hlen
  omega

theorem reason_eq_ok {v : StabilityVerdict} : v.reason = "ok" ↔ v.passed = true := by
  cases v with
  | safe => exact iff_of_true rfl rfl
  | noCorridor => exact iff_of_false (by decide) nofun
  | corridorBreach i risk rmin rmax =>
      refine iff_of_false ?_ nofun
      unfold reason
      simp only [String.append_assoc]
      exact append_ne_ok (by decide) _
  | potentialIncrease prev next =>
      refine iff_of_false ?_ nofun
      unfold reason
      simp only [String.append_assoc]
      exact append_ne_ok (by decide) _

end StabilityVerdict

end SiteSafety
