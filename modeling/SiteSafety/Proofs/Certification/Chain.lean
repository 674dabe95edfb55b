import SiteSafety.Proofs.Certification.Acceptance

namespace SiteSafety

open FloatValue

namespace Settings

def Exterior (s : Settings) : Prop := s.interior.previous = false ∧ s.interior.next = false

def after (s : Settings) (p : Float) : Settings := { s with previousPotential := some p }

theorem validate_after {s : Settings} (h : s.validate = .ok ()) (p : Float) :
    (s.after p).validate = requirePrevious (some p) := by
  obtain ⟨hwindow, hweights, htolerances, hthresholds, hstress, -⟩ := validate_eq_ok.mp h
  simp only [validate, after, hwindow, hweights, htolerances, hthresholds, hstress, ok_bind]

end Settings

namespace Certification

variable {rows : List Measurement} {s : Settings} {c first last : Certification} {n : ℕ}

theorem Completes.potential_share (h : Completes rows s c) (hc : c.accepted = true) :
    0 ≤ c.potential ∧ c.potential ≤ totalWeight s := by
  rw [h.potential_eq]
  exact potentialSum_share h.valid (h.accepted.mp hc).1

theorem Completes.potential_step (h : Completes rows s c) (hc : c.accepted = true)
    (hexterior : s.Exterior) {p : Float} (hp : s.previousPotential = some p) :
    c.potential ≤ p + growthSlack := by
  obtain ⟨-, -, hgrown⟩ := h.accepted.mp hc
  obtain ⟨hnan, hle⟩ := hgrown p hp hexterior.1 hexterior.2
  exact le_iff.mpr ⟨hnan, isNaN_add_growthSlack (h.valid.previous p hp), hle⟩

structure ExteriorCycle (rows : List Measurement) (s : Settings) (c : Certification) : Prop where
  completes : ofRows rows s = .ok c
  accepted : c.accepted = true
  exterior : s.Exterior

/-- A first cycle and as many more as counted, up to a last one. Each has rows and settings of its
own, but for the previous potential. -/
inductive ExteriorRun (first : Certification) : ℕ → Certification → Prop
  | start {rows : List Measurement} {s : Settings} :
      ExteriorCycle rows s first → ExteriorRun first 0 first
  | step {rows : List Measurement} {s : Settings} {n : ℕ} {last next : Certification} :
      ExteriorRun first n last → ExteriorCycle rows s next →
      s.previousPotential = some last.potential → ExteriorRun first (n + 1) next

theorem ExteriorCycle.potential_nonneg (h : ExteriorCycle rows s c) : 0 ≤ c.potential :=
  ((completes_of_ofRows h.completes).potential_share h.accepted).1

theorem ExteriorRun.potential_nonneg (h : ExteriorRun first n last) : 0 ≤ last.potential := by
  cases h with
  | start hcycle => exact hcycle.potential_nonneg
  | step _ hcycle _ => exact hcycle.potential_nonneg

/-- Over a run the potential stays a number, and below the first one with the slack added as many
times as cycles have followed it. -/
theorem ExteriorRun.potential_le_iterate (h : ExteriorRun first n last) :
    last.potential.isNaN = false ∧ last.potential ≤ (· + growthSlack)^[n] first.potential := by
  refine ⟨(zero_le_iff.mp h.potential_nonneg).1, ?_⟩
  induction h with
  | start hcycle => exact FloatValue.le_refl (zero_le_iff.mp hcycle.potential_nonneg).1
  | @step _ _ n last next hrun hcycle hprevious ih =>
      have hc := completes_of_ofRows hcycle.completes
      have hstep := hc.potential_step hcycle.accepted hcycle.exterior hprevious
      -- Rounded addition keeps the order between numbers only, so the bound has to be one as well.
      have hbound : 0 ≤ (· + growthSlack)^[n] first.potential :=
        FloatValue.le_trans hrun.potential_nonneg ih
      have hmono := add_growthSlack_mono ih (le_iff.mp hstep).2.1
        (zero_le_iff.mp (FloatValue.add_nonneg hbound growthSlack_nonneg)).1
      rw [Function.iterate_succ_apply']
      exact FloatValue.le_trans hstep hmono

theorem ExteriorRun.potential_le_iterate_second :
    ∃ first last, ExteriorRun first 1 last ∧ first.potential < last.potential ∧
      last.potential ≤ first.potential + growthSlack := by
  have hfirst : (ofRows [.plain .tp 0.05] .standard).toOption.any
      (fun c => c.accepted && c.potential = 0.3) = true := by
    decide +kernel
  have hlast : (ofRows [.plain .tp 0.05000000005] (Settings.standard.after 0.3)).toOption.any
      (fun c => c.accepted && decide (0.3 < c.potential)) = true := by
    decide +kernel
  obtain ⟨first, hfirst, haccepted⟩ := exists_ok_of_any hfirst
  obtain ⟨last, hlast, haccepted'⟩ := exists_ok_of_any hlast
  rw [Bool.and_eq_true, decide_eq_true_iff] at haccepted haccepted'
  have hrun : ExteriorRun first 1 last :=
    .step (.start ⟨hfirst, haccepted.1, rfl, rfl⟩) ⟨hlast, haccepted'.1, rfl, rfl⟩
      (by rw [haccepted.2]; rfl)
  rw [← haccepted.2] at haccepted'
  exact ⟨first, last, hrun, haccepted'.2, hrun.potential_le_iterate.2⟩

theorem computed_after (rows : List Measurement) (s : Settings) (p : Float) :
    computed rows (s.after p) = { computed rows s with
      stability := stabilityOf (s.after p) (computed rows s).potential (computed rows s).coordinates } :=
  rfl

theorem stabilityOf_after {v : Float} {cs : List RiskCoordinate}
    (h : (stabilityOf s v cs).passed = true) :
    stabilityOf (s.after v) v cs = stabilityOf s v cs := by
  have hagain : (stabilityOf (s.after v) v cs).passed = true := by
    rw [stabilityOf, StabilityVerdict.passed_ofStep] at h ⊢
    exact ⟨h.1, h.2.1, potentialGrows_self v _ _⟩
  rw [StabilityVerdict.passed_iff_safe.mp h, StabilityVerdict.passed_iff_safe.mp hagain]

theorem ofRows_after (h : ofRows rows s = .ok c) (hc : c.accepted = true)
    (hfin : c.potential.isFinite = true) : ofRows rows (s.after c.potential) = .ok c := by
  obtain ⟨hvalid, hflow, rfl⟩ := ofRows_eq_ok.mp h
  obtain ⟨-, hstable⟩ := Bool.and_eq_true_iff.mp hc
  refine ofRows_eq_ok.mpr ⟨?_, hflow, ?_⟩
  · rw [Settings.validate_after hvalid, Settings.requirePrevious, if_pos hfin]
  · have hstability : stabilityOf (s.after (computed rows s).potential) (computed rows s).potential
        (computed rows s).coordinates = (computed rows s).stability := stabilityOf_after hstable
    rw [computed_after, hstability]

/-- An accepted cycle after itself. Its potential lies between zero and the sum of the weights, so it
is finite unless that sum overflows, and it is finite after any previous one between exterior steps.
A finite potential lets the same rows follow with nothing changed, and an infinite one is refused. -/
theorem accepted_after (h : ofRows rows s = .ok c) (hc : c.accepted = true) :
    0 ≤ c.potential ∧ c.potential ≤ totalWeight s ∧
    ((totalWeight s).isFinite = true → c.potential.isFinite = true) ∧
    (s.previousPotential.isSome = true → s.Exterior → c.potential.isFinite = true) ∧
    (c.potential.isFinite = true →
      (s.after c.potential).validate = .ok () ∧ ofRows rows (s.after c.potential) = .ok c) ∧
    (c.potential.isFinite = false →
      (s.after c.potential).validate = .error (.nonFinite "previous_potential")) := by
  have hcompletes := completes_of_ofRows h
  obtain ⟨hlo, hhi⟩ := hcompletes.potential_share hc
  have hvalid := (ofRows_eq_ok.mp h).1
  refine ⟨hlo, hhi, isFinite_of_le hlo hhi, ?_, ?_, ?_⟩
  · -- The gate itself bounds the potential, whatever the weights add up to.
    intro hprevious hexterior
    obtain ⟨p, hp⟩ := Option.isSome_iff_exists.mp hprevious
    have hstep := hcompletes.potential_step hc hexterior hp
    have hlargest := add_growthSlack_le_largest (hcompletes.valid.previous p hp)
    exact isFinite_of_le hlo (FloatValue.le_trans hstep hlargest) rfl
  · intro hfin
    have hagain := ofRows_after h hc hfin
    exact ⟨(ofRows_eq_ok.mp hagain).1, hagain⟩
  · intro hinf
    rw [Settings.validate_after hvalid, Settings.requirePrevious, hinf]
    rfl

theorem accepted_after_half :
    ∃ c, ofRows [.plain .tp 0.05] .standard = .ok c ∧ c.accepted = true ∧
      c.potential.isFinite = true ∧ (Settings.standard.after c.potential).validate = .ok () ∧
      ofRows [.plain .tp 0.05] (Settings.standard.after c.potential) = .ok c := by
  have hpass : (ofRows [.plain .tp 0.05] .standard).toOption.any (·.accepted) = true := by
    decide +kernel
  obtain ⟨c, h, hc⟩ := exists_ok_of_any hpass
  obtain ⟨-, -, hfinite, -, hagain, -⟩ := accepted_after h hc
  have hfin := hfinite (by decide +kernel)
  exact ⟨c, h, hc, hfin, hagain hfin⟩

def heavySettings : Settings :=
  { Settings.standard with hazardWeights := .ofList [("PFBS", 1e308), ("TDS", 1e308)] }

def heavyRows : List Measurement :=
  [ { Measurement.plain .pfbs 2000 with inlet := 2000 },
    { Measurement.plain .tds 500 with inlet := 500 } ]

theorem infinite_potential_refused :
    ∃ c, ofRows heavyRows heavySettings = .ok c ∧ c.accepted = true ∧
      c.potential.isFinite = false ∧
      (heavySettings.after c.potential).validate = .error (.nonFinite "previous_potential") ∧
      ofRows heavyRows (heavySettings.after c.potential) =
        .error (.settings (.nonFinite "previous_potential")) := by
  have hpass : (ofRows heavyRows heavySettings).toOption.any
      (fun c => c.accepted && !c.potential.isFinite) = true := by
    decide +kernel
  obtain ⟨c, h, hc⟩ := exists_ok_of_any hpass
  rw [Bool.and_eq_true, Bool.not_eq_true'] at hc
  have hrefused : (heavySettings.after c.potential).validate =
      .error (.nonFinite "previous_potential") := by
    rw [Settings.validate_after (ofRows_eq_ok.mp h).1, Settings.requirePrevious, hc.2]
    rfl
  exact ⟨c, h, hc.1, hc.2, hrefused, ofRows_of_invalid hrefused heavyRows⟩

end Certification

end SiteSafety
