import SiteSafety.Proofs.Certification.Compliance

namespace SiteSafety

namespace Measurement

structure Agree (r r' : Measurement) : Prop where
  nodeId : r.nodeId = r'.nodeId
  contaminant : r.contaminant = r'.contaminant
  inlet : r.inlet = r'.inlet
  outlet : r.outlet = r'.outlet
  flow : r.flow = r'.flow
  reference : r.reference = r'.reference

def essential (r : Measurement) : Measurement :=
  { r with
    location := ""
    system := ""
    parameter := ""
    unit := ""
    supply := 0
    ecoImpactScore := 0
    karmaPerUnit := 0
    notes := none }

theorem Agree.essential_eq {r r' : Measurement} (h : r.Agree r') : r.essential = r'.essential := by
  obtain ⟨hnode, hcontaminant, hinlet, houtlet, hflow, hreference⟩ := h
  simp only [essential, hnode, hcontaminant, hinlet, houtlet, hflow, hreference]

end Measurement

open Measurement (essential)

def outletsNamed (name : String) (rows : List Measurement) : List Float :=
  (rows.filter fun r => r.contaminant == name).map (·.outlet)

/-- Under each tracked name the same outlets in the same order. -/
def SameOutlets (rows rows' : List Measurement) : Prop :=
  ∀ k : Contaminant, outletsNamed k.name rows = outletsNamed k.name rows'

/-- Settings that differ at most in the window, the site readings, the context, and the weights of
names that are not tracked. -/
structure Settings.SameGates (s s' : Settings) : Prop where
  tolerances : s.tolerances = s'.tolerances
  thresholds : s.thresholds = s'.thresholds
  residual : s.residual = s'.residual
  previousPotential : s.previousPotential = s'.previousPotential
  interior : s.interior = s'.interior
  weights : ∀ k : Contaminant, s.hazardWeights.weight k.name = s'.hazardWeights.weight k.name

variable {rows rows' : List Measurement} {s s' : Settings}

theorem map_essential_eq (h : List.Forall₂ Measurement.Agree rows rows') :
    rows.map essential = rows'.map essential := by
  induction h with
  | nil => rfl
  | cons hr _ ih => rw [List.map_cons, List.map_cons, hr.essential_eq, ih]

section Essential

variable (rows : List Measurement)

theorem impacts_essential (weights : HazardTable) (window : Float) :
    (rows.map essential).map (Impact.ofRow weights window) = rows.map (Impact.ofRow weights window) := by
  rw [List.map_map]
  rfl

theorem run_essential (s : Accumulated) : s.run (rows.map essential) = s.run rows := by
  rw [Accumulated.run, List.foldl_map]
  rfl

theorem outletsOf_essential (k : Contaminant) : outletsOf (rows.map essential) k = outletsOf rows k := by
  rw [outletsOf, List.filter_map, List.map_map]
  rfl

theorem meanOutlets_essential : meanOutlets (rows.map essential) = meanOutlets rows := by
  simp only [meanOutlets, outletsOf_essential]

theorem firstRows_essential (seen : List String) :
    firstRows seen (rows.map essential) = (firstRows seen rows).map essential := by
  induction rows generalizing seen with
  | nil => rfl
  | cons r rows ih =>
      have hnode : r.essential.nodeId = r.nodeId := rfl
      rw [List.map_cons, firstRows, firstRows, hnode]
      split
      · exact ih seen
      · rw [List.map_cons, ih]

theorem totalFlow_essential : totalFlow (rows.map essential) = totalFlow rows := by
  rw [totalFlow, firstRows_essential, List.foldl_map]
  rfl

end Essential

theorem tracked?_eq_some {r : Measurement} {k : Contaminant} :
    r.tracked? = some k ↔ r.contaminant = k.name := by
  constructor
  · intro h
    exact (Contaminant.name_of_ofName? h).symm
  · intro h
    rw [Measurement.tracked?, h, k.ofName?_name]

theorem outletsOf_eq (rows : List Measurement) (k : Contaminant) :
    outletsOf rows k = outletsNamed k.name rows := by
  have hsame : (fun r : Measurement => r.tracked? == some k) = fun r => r.contaminant == k.name := by
    funext r
    rw [Bool.eq_iff_iff, beq_iff_eq, beq_iff_eq, tracked?_eq_some]
  rw [outletsOf, outletsNamed, hsame]

theorem coordinateOf_eq (houtlets : SameOutlets rows rows') (h : s.SameGates s') (k : Contaminant) :
    coordinateOf rows s k = coordinateOf rows' s' k := by
  rw [coordinateOf, coordinateOf, riskOf_eq, riskOf_eq, outletsOf_eq, outletsOf_eq, houtlets k,
    h.thresholds, h.weights k]

namespace Certification

variable {c c' : Certification}

theorem computed_essential (rows : List Measurement) (s : Settings) :
    computed (rows.map essential) s = computed rows s := by
  have hcoordinate : coordinateOf (rows.map essential) s = coordinateOf rows s := by
    funext k
    rw [coordinateOf, coordinateOf, riskOf, riskOf, meanOutlets_essential]
  simp only [computed, siteStateOf, impacts_essential, run_essential, meanOutlets_essential,
    totalFlow_essential, hcoordinate]

theorem ofRows_essential (rows : List Measurement) (s : Settings) :
    ofRows (rows.map essential) s = ofRows rows s := by
  cases h : s.validate with
  | error e => rw [ofRows_of_invalid h, ofRows_of_invalid h]
  | ok u => rw [ofRows_of_valid h, ofRows_of_valid h, totalFlow_essential, computed_essential]

theorem ofRows_eq_of_agree (h : List.Forall₂ Measurement.Agree rows rows') (s : Settings) :
    ofRows rows s = ofRows rows' s := by
  rw [← ofRows_essential rows, ← ofRows_essential rows', map_essential_eq h]

theorem computed_coordinates (houtlets : SameOutlets rows rows') (h : s.SameGates s') :
    (computed rows s).coordinates = (computed rows' s').coordinates := by
  have hcoordinate : coordinateOf rows s = coordinateOf rows' s' := by
    funext k
    exact coordinateOf_eq houtlets h k
  rw [computed, computed, hcoordinate]

theorem stabilityOf_eq (h : s.SameGates s') (v : Float) (cs : List RiskCoordinate) :
    stabilityOf s v cs = stabilityOf s' v cs := by
  rw [stabilityOf, stabilityOf, h.previousPotential, h.interior]

/-- Rows that agree in what a cycle reads have one outcome, to the last byte. For the verdicts it is
enough that the tracked contaminants have the same outlets in the same order, whatever other rows
stand between them, and that the settings agree in what the gates compare with. -/
theorem outcome_determined (h : ofRows rows s = .ok c) (h' : ofRows rows' s' = .ok c') :
    (List.Forall₂ Measurement.Agree rows rows' → s = s' → c = c') ∧
    (SameOutlets rows rows' → s.SameGates s' →
      c.coordinates = c'.coordinates ∧ c.potential = c'.potential ∧
        c.conservation = c'.conservation ∧ c.stability = c'.stability ∧
        c.accepted = c'.accepted) := by
  constructor
  · rintro hrows rfl
    rw [ofRows_eq_of_agree hrows, h'] at h
    exact (Except.ok.inj h).symm
  · intro houtlets hs
    have hc := completes_of_ofRows h
    have hc' := completes_of_ofRows h'
    have hcoordinates : c.coordinates = c'.coordinates := by
      obtain ⟨-, -, rfl⟩ := ofRows_eq_ok.mp h
      obtain ⟨-, -, rfl⟩ := ofRows_eq_ok.mp h'
      exact computed_coordinates houtlets hs
    have hpotential : c.potential = c'.potential := by
      rw [hc.potential, hc'.potential, hcoordinates]
    have hconservation : c.conservation = c'.conservation := by
      rw [hc.conservation, hc'.conservation, hs.residual, hs.tolerances]
    have hstability : c.stability = c'.stability := by
      rw [hc.stability, hc'.stability, hpotential, hcoordinates, stabilityOf_eq hs]
    refine ⟨hcoordinates, hpotential, hconservation, hstability, ?_⟩
    rw [accepted, accepted, hconservation, hstability]

def breachRows : List Measurement := [.plain .tp 0.05, .plain .tds 600, .plain .tp 0.07]

def shuffledRows : List Measurement :=
  [ { Measurement.plain .tds 600 with nodeId := "N2", flow := 3, location := "outfall" },
    { Measurement.plain .tp 0.05 with inlet := 7 },
    { Measurement.plain .tp 9 with contaminant := "Lead", flow := 1 / 0 },
    { Measurement.plain .tp 0.07 with reference := -1, notes := some "late" } ]

def otherSettings : Settings :=
  { Settings.standard with
    windowSeconds := 60
    hazardWeights := Settings.standard.hazardWeights.put "Lead" 5
    context := .coastal
    site := ⟨1, 2, 0.5⟩ }

theorem sameGates_otherSettings : Settings.standard.SameGates otherSettings where
  tolerances := rfl
  thresholds := rfl
  residual := rfl
  previousPotential := rfl
  interior := rfl
  weights := by
    intro k
    cases k <;> decide +kernel

theorem outcome_determined_shuffled :
    (∃ c c', ofRows breachRows .standard = .ok c ∧
      ofRows (breachRows.map fun r => { r with unit := "mg/L", supply := 4 }) .standard = .ok c' ∧
      c = c') ∧
    ∃ c c', ofRows breachRows .standard = .ok c ∧ ofRows shuffledRows otherSettings = .ok c' ∧
      c.stability = c'.stability ∧ c.accepted = c'.accepted ∧ c.accepted = false := by
  have hbreach : (ofRows breachRows .standard).toOption.any (fun c => !c.accepted) = true := by
    decide +kernel
  have hlabelled : (ofRows (breachRows.map fun r => { r with unit := "mg/L", supply := 4 })
      .standard).toOption.any (fun _ => true) = true := by
    decide +kernel
  have hshuffled : (ofRows shuffledRows otherSettings).toOption.any (fun _ => true) = true := by
    decide +kernel
  obtain ⟨c, h, hrefused⟩ := exists_ok_of_any hbreach
  obtain ⟨c₁, h₁, -⟩ := exists_ok_of_any hlabelled
  obtain ⟨c₂, h₂, -⟩ := exists_ok_of_any hshuffled
  constructor
  · have hagree : List.Forall₂ Measurement.Agree breachRows
        (breachRows.map fun r => { r with unit := "mg/L", supply := 4 }) :=
      .cons ⟨rfl, rfl, rfl, rfl, rfl, rfl⟩ (.cons ⟨rfl, rfl, rfl, rfl, rfl, rfl⟩
        (.cons ⟨rfl, rfl, rfl, rfl, rfl, rfl⟩ .nil))
    exact ⟨c, c₁, h, h₁, (outcome_determined h h₁).1 hagree rfl⟩
  · have houtlets : SameOutlets breachRows shuffledRows := by
      intro k
      cases k <;> decide +kernel
    obtain ⟨-, -, -, hstability, haccepted⟩ :=
      (outcome_determined h h₂).2 houtlets sameGates_otherSettings
    exact ⟨c, c₂, h, h₂, hstability, haccepted, (Bool.not_eq_true' _).mp hrefused⟩

end Certification

end SiteSafety
