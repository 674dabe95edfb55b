import SiteSafety.Certification
import SiteSafety.Proofs.Record.Stamped
import SiteSafety.Proofs.Verdict

namespace SiteSafety

open FloatValue

/-- The risk of a tracked contaminant, its mean outlet in units of its threshold. -/
def riskOf (rows : List Measurement) (s : Settings) (k : Contaminant) : Float :=
  (meanOutlets rows).get k / s.thresholds.get k

def coordinateOf (rows : List Measurement) (s : Settings) (k : Contaminant) : RiskCoordinate :=
  ⟨riskOf rows s k, s.hazardWeights.weight k.name, 0, 1⟩

theorem coordinatesOf_eq (rows : List Measurement) {s : Settings}
    (hweights : s.hazardWeights.validate = .ok ())
    (hthresholds : s.thresholds.requirePositive = .ok ()) :
    coordinatesOf (meanOutlets rows) s.thresholds s.hazardWeights =
      .ok (Contaminant.all.map (coordinateOf rows s)) := by
  have hunit (k : Contaminant) (_ : k ∈ Contaminant.all) :
      RiskCoordinate.unit ((meanOutlets rows).get k / s.thresholds.get k)
        (s.hazardWeights.weight k.name) = .ok (coordinateOf rows s k) :=
    RiskCoordinate.unit_eq_ok (HazardTable.weight_admissible hweights k.name).2
  rw [coordinatesOf, hthresholds]
  exact mapM_eq_ok_map hunit

theorem Impact.ofRows_eq {weights : HazardTable} {window : Float}
    (hwindow : requireWindow window = .ok ()) (hweights : weights.validate = .ok ())
    (rows : List Measurement) :
    ofRows weights window rows = .ok (rows.map (ofRow weights window)) := by
  rw [ofRows, hwindow, hweights]
  rfl

theorem Impact.total_eq (impacts : List Impact) :
    total impacts = (impacts.map (·.kn)).foldl (· + ·) (-0.0) := by
  rw [List.foldl_map]
  rfl

namespace Certification

theorem forall_coordinates {rows : List Measurement} {s : Settings} {P : RiskCoordinate → Prop} :
    (∀ x ∈ Contaminant.all.map (coordinateOf rows s), P x) ↔ ∀ k, P (coordinateOf rows s k) := by
  simp only [List.forall_mem_map, Contaminant.mem_all, true_implies]

/-- What a cycle makes of its rows, whether or not its checks let them through. -/
def computed (rows : List Measurement) (s : Settings) : Certification :=
  let impacts := rows.map (Impact.ofRow s.hazardWeights s.windowSeconds)
  let state := Accumulated.zero.run rows
  let coordinates := Contaminant.all.map (coordinateOf rows s)
  let potential := energySum coordinates
  let record := Record.stamped (siteStateOf rows s impacts state) s.residual s.tolerances
  { impacts := impacts
    state := state
    coordinates := coordinates
    potential := potential
    conservation := .ofResidual s.residual s.tolerances
    stability := stabilityOf s potential coordinates
    record := record
    encoded := record.encode }

variable {rows : List Measurement} {s : Settings}

theorem weights_nonneg (rows : List Measurement) (hweights : s.hazardWeights.validate = .ok ()) :
    ∀ x ∈ Contaminant.all.map (coordinateOf rows s), 0 ≤ x.weight := by
  rw [forall_coordinates]
  exact fun k => (HazardTable.weight_admissible hweights k.name).2

theorem ofRows_of_invalid {e : Violation} (h : s.validate = .error e) (rows : List Measurement) :
    ofRows rows s = .error (.settings e) := by
  rw [ofRows, h]
  rfl

theorem record_eq (h : s.validate = .ok ()) (rows : List Measurement) (impacts : List Impact)
    (state : Accumulated) :
    Record.ofState ((siteStateOf rows s impacts state).map .ofFloat) (s.residual.map .ofFloat)
      s.tolerances = if 0 ≤ totalFlow rows
        then .ok (.stamped (siteStateOf rows s impacts state) s.residual s.tolerances)
        else .error (.negativeFlow (totalFlow rows)) := by
  obtain ⟨-, -, htolerances, hthresholds, hstress, -⟩ := Settings.validate_eq_ok.mp h
  exact Record.ofState_eq s.residual hthresholds hstress htolerances

theorem ofRows_of_valid (h : s.validate = .ok ()) (rows : List Measurement) :
    ofRows rows s = if 0 ≤ totalFlow rows then .ok (computed rows s)
      else .error (.settings (.negativeFlow (totalFlow rows))) := by
  obtain ⟨hwindow, hweights, -, hthresholds, -⟩ := Settings.validate_eq_ok.mp h
  simp only [ofRows, h, mapError_ok, ok_bind, Impact.ofRows_eq hwindow hweights,
    coordinatesOf_eq rows hweights hthresholds, potentialOf_eq (weights_nonneg rows hweights),
    record_eq h]
  split
  · rfl
  · rfl

theorem ofRows_eq_ok {c : Certification} :
    ofRows rows s = .ok c ↔ s.validate = .ok () ∧ 0 ≤ totalFlow rows ∧ c = computed rows s := by
  cases h : s.validate with
  | error e =>
      rw [ofRows_of_invalid h]
      exact iff_of_false nofun (fun h => nomatch h.1)
  | ok u =>
      rw [ofRows_of_valid h]
      by_cases hflow : 0 ≤ totalFlow rows
      · rw [if_pos hflow, Except.ok.injEq, eq_comm]
        exact ⟨fun hc => ⟨rfl, hflow, hc⟩, fun hc => hc.2.2⟩
      · rw [if_neg hflow]
        exact iff_of_false nofun (fun h => hflow h.2.1)

structure Completes (rows : List Measurement) (s : Settings) (c : Certification) : Prop where
  valid : s.Valid
  impacts : Impact.ofRows s.hazardWeights s.windowSeconds rows = .ok c.impacts
  state : c.state = Accumulated.zero.run rows
  coordinates : c.coordinates = Contaminant.all.map (coordinateOf rows s)
  potential : c.potential = energySum c.coordinates
  record : Record.ofState ((siteStateOf rows s c.impacts c.state).map .ofFloat)
    (s.residual.map .ofFloat) s.tolerances = .ok c.record
  conservation : c.conservation = .ofResidual s.residual s.tolerances
  stability : c.stability = stabilityOf s c.potential c.coordinates
  encoded : c.encoded = c.record.encode

theorem completes_of_ofRows {c : Certification} (h : ofRows rows s = .ok c) :
    Completes rows s c := by
  obtain ⟨hvalidate, hflow, rfl⟩ := ofRows_eq_ok.mp h
  obtain ⟨hwindow, hweights, -⟩ := Settings.validate_eq_ok.mp hvalidate
  have hrecord := record_eq hvalidate rows (computed rows s).impacts (computed rows s).state
  rw [if_pos hflow] at hrecord
  exact {
    valid := Settings.valid_of_validate hvalidate
    impacts := Impact.ofRows_eq hwindow hweights rows
    state := rfl
    coordinates := rfl
    potential := rfl
    record := hrecord
    conservation := rfl
    stability := rfl
    encoded := rfl }

theorem corridorsPresent_coordinates (rows : List Measurement) (s : Settings) :
    corridorsPresent (Contaminant.all.map (coordinateOf rows s)) = true := by
  have h : decide ((1 : Float) > 0) = true := decide_eq_true FloatValue.zero_lt_one
  simp [corridorsPresent, Contaminant.all, RiskCoordinate.hasCorridor, coordinateOf, h]

theorem isInside_coordinateOf {rows : List Measurement} {s : Settings} {k : Contaminant} :
    (coordinateOf rows s k).isInside = true ↔ 0 ≤ riskOf rows s k ∧ riskOf rows s k ≤ 1 :=
  RiskCoordinate.isInside_iff

end Certification

def Measurement.plain (k : Contaminant) (outlet : Float) : Measurement :=
  { nodeId := "N1"
    location := ""
    system := ""
    contaminant := k.name
    parameter := ""
    unit := ""
    inlet := 0
    outlet := outlet
    flow := 0
    reference := 1
    supply := 0
    ecoImpactScore := 0
    karmaPerUnit := 0
    notes := none }

end SiteSafety
