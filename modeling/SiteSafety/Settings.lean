import SiteSafety.HazardTable
import SiteSafety.SiteState

namespace SiteSafety

structure SiteReadings where
  velocity : Float
  availableEnergy : Float
  bioStress : Float
  deriving DecidableEq

/-- Whether the state lies in the interior of its region before and after the cycle, as the caller
says. -/
structure Interior where
  previous : Bool
  next : Bool
  deriving DecidableEq

structure Settings where
  windowSeconds : Float
  hazardWeights : HazardTable
  tolerances : Tolerances
  context : Context
  thresholds : Panel Float
  site : SiteReadings
  residual : Residual Float
  /-- The potential certified by the previous cycle; a first cycle has none. -/
  previousPotential : Option Float
  interior : Interior
  deriving DecidableEq

namespace Settings

def dailyWindow : Float := 86400

def standard : Settings :=
  { windowSeconds := dailyWindow
    hazardWeights := .standard
    tolerances := .standard
    context := .urban
    thresholds := .regulatoryLimits
    site := ⟨0, 0, 0⟩
    residual := ⟨0, 0⟩
    previousPotential := none
    interior := ⟨false, false⟩ }

def requirePrevious : Option Float → Except Violation Unit
  | none => .ok ()
  | some v => if v.isFinite then .ok () else .error (.nonFinite "previous_potential")

def validate (c : Settings) : Except Violation Unit := do
  requireWindow c.windowSeconds
  c.hazardWeights.validate
  c.tolerances.validate
  c.thresholds.requirePositive
  requireStress c.site.bioStress
  requirePrevious c.previousPotential

end Settings

end SiteSafety
