import SiteSafety.Proofs.Float.Alike
import SiteSafety.Proofs.Impact.Calls

namespace SiteSafety

open FloatValue

/-- Zero with no uncertainty, or no number at all where the volume is out of range. -/
def KnEstimate.ZeroInRange (e : KnEstimate) (flow windowSeconds : Float) : Prop :=
  ((flow * windowSeconds).isFinite = true → (e.kn == 0) = true ∧ e.sigma = 0) ∧
    ((flow * windowSeconds).isFinite = false → e.kn.isNaN = true ∧ e.sigma.isNaN = true)

def Measurement.NoImpact (windowSeconds : Float) (r : Measurement) : Prop :=
  r.Unreferenced ∧ (r.flow * windowSeconds).isFinite = true

variable {t : HazardTable} {weight flow windowSeconds : Float} {r : Measurement}
  {rows rows' : List Measurement}

theorem beq_zero_iff {x : Float} : (x == 0) = true ↔ Alike x 0 := by
  rw [beq_iff, alike_zero_iff, value_zero]
  exact and_congr_right fun _ => and_iff_right isNaN_zero

theorem knUncertainty_of_zero {kn : Float} (h : Alike kn 0) : knUncertainty kn = 0 := by
  have hneg_zero : (0 : Float) ≠ -0 := by decide
  by_cases hkn : kn = -0
  · rw [hkn]
    decide +kernel
  · rw [h.eq hkn hneg_zero]
    decide +kernel

theorem isNaN_knUncertainty {kn : Float} (h : kn.isNaN = true) : (knUncertainty kn).isNaN = true := by
  rw [eq_nan_iff.mpr h]
  decide +kernel

theorem zeroInRange_knOver (hweight : weight.isFinite = true) (hflow : flow.isFinite = true)
    (hwindow : windowSeconds.isFinite = true) :
    KnEstimate.ZeroInRange ⟨knOver weight 0 flow windowSeconds,
      knUncertainty (knOver weight 0 flow windowSeconds)⟩ flow windowSeconds := by
  have hratio : Alike (weight * 0) 0 := .mul_of_zero hweight rfl (.inr (.refl 0))
  constructor
  · intro hvolume
    have hkn : Alike (knOver weight 0 flow windowSeconds) 0 :=
      .mul_of_zero hratio.isFinite_of_zero hvolume (.inl hratio)
    exact ⟨beq_zero_iff.mpr hkn, knUncertainty_of_zero hkn⟩
  · intro hvolume
    have hkn : (knOver weight 0 flow windowSeconds).isNaN = true :=
      isNaN_mul_of_infinite hratio (isNaN_mul_of_isFinite hflow hwindow) hvolume
    exact ⟨hkn, isNaN_knUncertainty hkn⟩

theorem zeroInRange_ofRow (ht : t.validate = .ok ()) (hwindow : windowSeconds.isFinite = true)
    (h : r.Unreferenced) :
    (Impact.ofRow t windowSeconds r).estimate.ZeroInRange r.flow windowSeconds := by
  have hkn := zeroInRange_knOver (HazardTable.weight_admissible ht r.contaminant).1 h.2 hwindow
  rw [← h.ratio_eq] at hkn
  exact hkn

theorem zeroInRange_estimate {n : BareMeasurement} {weights : Panel Float}
    (hweight : (weightOfCode weights n.contaminant).isFinite = true)
    (hwindow : windowSeconds.isFinite = true) (h : n.row.Unreferenced) :
    (n.estimate weights windowSeconds).ZeroInRange n.flow windowSeconds := by
  have hratio : removalRatio n.inlet n.outlet n.reference = 0 := h.ratio_eq
  rw [BareMeasurement.estimate, hratio]
  exact zeroInRange_knOver hweight h.2 hwindow

namespace Impact

theorem total_map (f : Measurement → Impact) (rows : List Measurement) :
    total (rows.map f) = rows.foldl (fun sum r => sum + (f r).kn) (-0.0) := by
  rw [total, List.foldl_map]

theorem total_alike (ht : t.validate = .ok ()) (hwindow : windowSeconds.isFinite = true)
    (h : Pruned (Measurement.NoImpact windowSeconds) rows rows') :
    Alike (total (rows.map (ofRow t windowSeconds))) (total (rows'.map (ofRow t windowSeconds))) := by
  rw [total_map, total_map]
  refine h.foldl_rel (fun r _ _ hsum => hsum.add (.refl _)) ?_ (.refl _)
  intro r sum _ hr hsum
  have hkn := ((zeroInRange_ofRow ht hwindow hr.1).1 hr.2).1
  exact (Alike.add_of_zero sum (beq_zero_iff.mp hkn)).trans hsum

theorem isNaN_total (ht : t.validate = .ok ()) (hwindow : windowSeconds.isFinite = true) (hr : r ∈ rows)
    (h : r.Unreferenced) (hvolume : (r.flow * windowSeconds).isFinite = false) :
    (total (rows.map (ofRow t windowSeconds))).isNaN = true := by
  rw [total_map]
  exact isNaN_foldl_add (.inr ⟨r, hr, ((zeroInRange_ofRow ht hwindow h).2 hvolume).1⟩)

end Impact

/-- What rows without a reference are given for a window that is a number of seconds, with a table that
is accepted, or by a call with a weight that a table might hold. They are given no impact exactly where
their volume over the window is in range, and rows like that can be deleted from a total. -/
theorem unreferenced_impact (ht : t.validate = .ok ()) (hpos : 0 < windowSeconds)
    (hwindow : windowSeconds.isFinite = true) :
    (∀ rows, ∃ impacts, Impact.ofRows t windowSeconds rows = .ok impacts ∧
      List.Forall₂ (fun r i => r.Unreferenced → i.estimate.ZeroInRange r.flow windowSeconds)
        rows impacts) ∧
    (∀ (n : BareMeasurement) (weights : Panel Float) (out : KnEstimate), n.row.Unreferenced →
      AdmissibleWeight (weightOfCode weights n.contaminant) →
        ∃ e, estimateCall (some n) (some weights) windowSeconds (some out) = (.ok, some e) ∧
          e.ZeroInRange n.flow windowSeconds) ∧
    (∀ rows rows', Pruned (Measurement.NoImpact windowSeconds) rows rows' →
      ∃ impacts impacts', Impact.ofRows t windowSeconds rows = .ok impacts ∧
        Impact.ofRows t windowSeconds rows' = .ok impacts' ∧
        Alike (Impact.total impacts) (Impact.total impacts')) ∧
    ∀ rows, (∃ r ∈ rows, r.Unreferenced ∧ (r.flow * windowSeconds).isFinite = false) →
      ∃ impacts, Impact.ofRows t windowSeconds rows = .ok impacts ∧
        (Impact.total impacts).isNaN = true := by
  have hrows (rows : List Measurement) :
      Impact.ofRows t windowSeconds rows = .ok (rows.map (Impact.ofRow t windowSeconds)) :=
    Impact.ofRows_eq_ok.mpr ⟨ite_eq_ok.mpr hpos, ht, rfl⟩
  refine ⟨fun rows => ⟨_, hrows rows, ?_⟩, ?_, ?_, ?_⟩
  · rw [List.forall₂_map_right_iff, List.forall₂_same]
    exact fun r _ hr => zeroInRange_ofRow ht hwindow hr
  · intro n weights out hn hweight
    exact ⟨_, rfl, zeroInRange_estimate hweight.1 hwindow hn⟩
  · intro rows rows' h
    exact ⟨_, _, hrows rows, hrows rows', Impact.total_alike ht hwindow h⟩
  · rintro rows ⟨r, hr, hunreferenced, hvolume⟩
    exact ⟨_, hrows rows, Impact.isNaN_total ht hwindow hr hunreferenced hvolume⟩

def backflow : Measurement :=
  { (BareMeasurement.mk 5 (0 / 0) (-3) 0 2).row with nodeId := "N3", contaminant := "TP" }

theorem unreferenced_impact_backflow :
    HazardTable.standard.validate = .ok () ∧ backflow.NoImpact 60 ∧
      ∃ impacts impacts',
        Impact.ofRows .standard 60 (backflow :: phosphorusAndLead) = .ok impacts ∧
        Impact.ofRows .standard 60 phosphorusAndLead = .ok impacts' ∧
        Alike (Impact.total impacts) (Impact.total impacts') := by
  have hvalid : HazardTable.standard.validate = .ok () := by decide +kernel
  have hflow : backflow.NoImpact 60 := ⟨⟨by decide, by decide⟩, by decide +kernel⟩
  have hpos : (0 : Float) < 60 := by decide
  obtain ⟨-, -, htotal, -⟩ := unreferenced_impact hvalid hpos (by decide)
  exact ⟨hvalid, hflow, htotal _ _ (.delete hflow (.refl _))⟩

/-- A flow past a node without a limit, which over a day is more than the largest float. -/
def flood : Measurement :=
  { (BareMeasurement.mk 1 0 1e308 0 2).row with nodeId := "N1", contaminant := "TP" }

theorem flood_impact_isNaN :
    HazardTable.standard.validate = .ok () ∧ (0 : Float) < 86400 ∧ (86400 : Float).isFinite = true ∧
      flood.Unreferenced ∧ ∃ i, Impact.ofRows .standard 86400 [flood] = .ok [i] ∧
        i.kn.isNaN = true ∧ i.sigma.isNaN = true ∧ (Impact.total [i]).isNaN = true := by
  have hflood : Impact.ofRows .standard 86400 [flood] =
      .ok [⟨"N1", "TP", Float.nan, Float.nan⟩] := by decide +kernel
  have hunreferenced : flood.Unreferenced := ⟨by decide, by decide +kernel⟩
  exact ⟨by decide +kernel, by decide, by decide, hunreferenced, _, hflood, by decide, by decide,
    by decide +kernel⟩

end SiteSafety
