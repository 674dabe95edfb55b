import SiteSafety.Proofs.Validation
import SiteSafety.Record.Basic

namespace SiteSafety

open Binary64 (ofFloat toFloat)

@[simp] theorem Binary64.toFloat_ofFloat (x : Float) : toFloat (ofFloat x) = x := Float.ofBits_toBits x

@[simp] theorem Panel.toFloat_ofFloat (p : Panel Float) : (p.map ofFloat).map toFloat = p := by
  simp [Panel.map]

@[simp] theorem Residual.toFloat_ofFloat (r : Residual Float) :
    (r.map ofFloat).map toFloat = r := by
  simp [Residual.map]

@[simp] theorem SiteState.toFloat_ofFloat (s : SiteState Float) :
    (s.map ofFloat).map toFloat = s := by
  simp [SiteState.map, Hydraulics.map, Indices.map]

theorem SiteState.validate_eq {s : SiteState Float} (hthresholds : s.thresholds.requirePositive = .ok ())
    (hstress : requireStress s.indices.bioStress = .ok ()) :
    s.validate = if 0 ≤ s.hydraulics.flow then .ok () else .error (.negativeFlow s.hydraulics.flow) := by
  rw [validate, hthresholds, hstress]
  split
  · rfl
  · rfl

/-- The record of a state, whether or not it passes the checks of a record. -/
def Record.stamped (state : SiteState Float) (residual : Residual Float) (t : Tolerances) : Record :=
  { context := state.context
    conservationOk := (ConservationVerdict.ofResidual residual t).passed
    reservedFlags := .replicate 2 0
    concentrations := state.concentrations.map ofFloat
    thresholds := state.thresholds.map ofFloat
    hydraulics := state.hydraulics.map ofFloat
    indices := state.indices.map ofFloat
    residual := residual.map ofFloat
    reserved := .replicate 16 0 }

section Stamped

variable (state : SiteState Float) (residual : Residual Float) (t : Tolerances)

@[simp] theorem Record.stamped_concentrations :
    (stamped state residual t).concentrations.map toFloat = state.concentrations :=
  Panel.toFloat_ofFloat state.concentrations

@[simp] theorem Record.stamped_thresholds :
    (stamped state residual t).thresholds.map toFloat = state.thresholds :=
  Panel.toFloat_ofFloat state.thresholds

@[simp] theorem Record.stamped_residual :
    (stamped state residual t).residual.map toFloat = residual :=
  Residual.toFloat_ofFloat residual

end Stamped

theorem Record.ofState_eq {state : SiteState Float} (residual : Residual Float) {t : Tolerances}
    (hthresholds : state.thresholds.requirePositive = .ok ())
    (hstress : requireStress state.indices.bioStress = .ok ()) (ht : t.validate = .ok ()) :
    ofState (state.map ofFloat) (residual.map ofFloat) t =
      if 0 ≤ state.hydraulics.flow then .ok (stamped state residual t)
      else .error (.negativeFlow state.hydraulics.flow) := by
  rw [ofState, SiteState.toFloat_ofFloat, Residual.toFloat_ofFloat,
    SiteState.validate_eq hthresholds hstress, ht]
  split
  · rfl
  · rfl

end SiteSafety
