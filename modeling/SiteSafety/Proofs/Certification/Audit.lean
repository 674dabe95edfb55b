import SiteSafety.Report
import SiteSafety.Proofs.Certification.Cycle
import SiteSafety.Proofs.Record.RoundTrip
import SiteSafety.Proofs.Text

namespace SiteSafety

open Binary64 (toFloat)

structure Findings where
  record : Record
  conservation : ConservationVerdict
  coordinates : List RiskCoordinate
  potential : Float
  stability : StabilityVerdict
  deriving DecidableEq

def Findings.ofRecord? (s : Settings) (r : Record) : Option Findings := do
  let coordinates ← (coordinatesOf (r.concentrations.map toFloat) (r.thresholds.map toFloat)
    s.hazardWeights).toOption
  let potential ← (potentialOf coordinates).toOption
  return {
    record := r
    conservation := .ofResidual (r.residual.map toFloat) s.tolerances
    coordinates := coordinates
    potential := potential
    stability := .ofStep ⟨s.previousPotential.getD potential, s.interior.previous⟩
      ⟨potential, s.interior.next⟩ coordinates }

def Report.audit? (p : Report) (s : Settings) : Option Findings := do
  let bytes ← Hex.decode? p.recordHex
  let record ← (Record.decode bytes).toOption
  Findings.ofRecord? s record

/-- What an audit is to find: the record of the cycle, the gates as they stood, and a flag, texts and
verdict in the report that say the same as the gates. -/
structure Report.Confirmed (p : Report) (s : Settings) (c : Certification) (f : Findings) : Prop where
  record : f.record.sameBits c.record = true
  flag : f.record.conservationOk = c.conservation.passed
  flag_iff_conserves : f.record.conservationOk =
    conserves (f.record.residual.map toFloat) s.tolerances.mass s.tolerances.energy
  flag_iff_reason : f.record.conservationOk = true ↔ p.conservationReason = "ok"
  coordinates : f.coordinates = c.coordinates
  potential : f.potential = c.potential
  stability : f.stability = c.stability
  certified_iff_gates : p.certified = true ↔ f.conservation.passed = true ∧ f.stability.passed = true
  certified_iff_reasons : p.certified = true ↔ p.conservationReason = "ok" ∧ p.stabilityReason = "ok"

namespace Certification

variable {rows : List Measurement} {s : Settings} {c : Certification}

theorem decode_encoded (h : ofRows rows s = .ok c) : Record.decode c.encoded = .ok c.record := by
  obtain ⟨-, -, rfl⟩ := ofRows_eq_ok.mp h
  have hdecode := Record.decode_encode (computed rows s).record []
  rwa [List.append_nil] at hdecode

theorem findings_of_ofRows (h : ofRows rows s = .ok c) : Findings.ofRecord? s c.record =
    some ⟨c.record, c.conservation, c.coordinates, c.potential, c.stability⟩ := by
  obtain ⟨hvalid, -, rfl⟩ := ofRows_eq_ok.mp h
  obtain ⟨-, hweights, -, hthresholds, -⟩ := Settings.validate_eq_ok.mp hvalid
  have hconcentrations : (computed rows s).record.concentrations.map toFloat = meanOutlets rows :=
    Record.stamped_concentrations _ _ _
  have hlimits : (computed rows s).record.thresholds.map toFloat = s.thresholds :=
    Record.stamped_thresholds _ _ _
  have hresidual : (computed rows s).record.residual.map toFloat = s.residual :=
    Record.stamped_residual _ _ _
  have hcoordinates := coordinatesOf_eq rows hweights hthresholds
  have hpotential := potentialOf_eq (weights_nonneg rows hweights)
  simp only [Findings.ofRecord?, hconcentrations, hlimits, hresidual, hcoordinates, hpotential,
    Except.toOption, Option.bind_eq_bind, Option.bind_some]
  rfl

end Certification

namespace Report

open Certification (ofRows ofRows_eq_ok)

variable {rows : List Measurement} {s : Settings} {c : Certification}

theorem audit?_ofCertification (h : ofRows rows s = .ok c) (stamp : Stamp) (siteId : String)
    (window : Float) (skipped : ℕ) :
    (ofCertification stamp siteId window skipped c).audit? s =
      some ⟨c.record, c.conservation, c.coordinates, c.potential, c.stability⟩ := by
  rw [audit?, ofCertification, Hex.decode?_encode, Option.bind_eq_bind, Option.bind_some,
    Certification.decode_encoded h]
  exact Certification.findings_of_ofRows h

theorem flag_of_ofRows (h : ofRows rows s = .ok c) :
    c.record.conservationOk = c.conservation.passed ∧
      c.record.residual.map toFloat = s.residual ∧
      c.conservation = .ofResidual s.residual s.tolerances := by
  obtain ⟨-, -, rfl⟩ := ofRows_eq_ok.mp h
  exact ⟨rfl, Record.stamped_residual _ _ _, rfl⟩

/-- The digits of a report, whatever site, window and count of rows it names, are read as the record
of its cycle, and what the gates say of that record bears out the report. -/
theorem audit_confirms (h : ofRows rows s = .ok c) (stamp : Stamp) (siteId : String)
    (window : Float) (skipped : ℕ) :
    ∃ f, (ofCertification stamp siteId window skipped c).audit? s = some f ∧
      (ofCertification stamp siteId window skipped c).Confirmed s c f := by
  refine ⟨_, audit?_ofCertification h stamp siteId window skipped, ?_⟩
  obtain ⟨hflag, hresidual, hconservation⟩ := flag_of_ofRows h
  have hcertified : c.accepted = true ↔ c.conservation.passed = true ∧ c.stability.passed = true := by
    rw [Certification.accepted, Bool.and_eq_true]
  exact {
    record := Record.sameBits_self c.record
    flag := hflag
    flag_iff_conserves := by
      rw [hflag, hresidual, hconservation, ConservationVerdict.passed_ofResidual]
    flag_iff_reason := by
      rw [hflag]
      exact ConservationVerdict.reason_eq_ok.symm
    coordinates := rfl
    potential := rfl
    stability := rfl
    certified_iff_gates := hcertified
    certified_iff_reasons := hcertified.trans
      (and_congr ConservationVerdict.reason_eq_ok.symm StabilityVerdict.reason_eq_ok.symm) }

theorem audit_confirms_refused :
    ∃ c, ofRows [.plain .tp (0 / 0)] { Settings.standard with residual := ⟨1, 0⟩ } = .ok c ∧
      c.conservation.passed = false ∧ c.stability.passed = false ∧
      ∃ f, (ofCertification ⟨"", ""⟩ "N1" 86400 0 c).audit?
          { Settings.standard with residual := ⟨1, 0⟩ } = some f ∧
        (ofCertification ⟨"", ""⟩ "N1" 86400 0 c).Confirmed
          { Settings.standard with residual := ⟨1, 0⟩ } c f := by
  have hrefused : (ofRows [.plain .tp (0 / 0)]
      { Settings.standard with residual := ⟨1, 0⟩ }).toOption.any
        (fun c => !c.conservation.passed && !c.stability.passed) = true := by
    decide +kernel
  obtain ⟨c, h, hc⟩ := exists_ok_of_any hrefused
  rw [Bool.and_eq_true, Bool.not_eq_true', Bool.not_eq_true'] at hc
  exact ⟨c, h, hc.1, hc.2, audit_confirms h ⟨"", ""⟩ "N1" 86400 0⟩

end Report

end SiteSafety
