import SiteSafety.Settings
import SiteSafety.Event
import SiteSafety.NodeTable
import SiteSafety.Record.Wire

namespace SiteSafety

inductive CertificationError where
  | settings (cause : Violation)
  | gate (cause : NegativeWeight)
  deriving DecidableEq

namespace CertificationError

def message : CertificationError → String
  | .settings e => "configuration error: " ++ e.message
  | .gate e => "invariant evaluation failed: " ++ e.message

def cause : CertificationError → String
  | .settings e => e.message
  | .gate e => e.message

end CertificationError

def outletsOf (rows : List Measurement) (c : Contaminant) : List Float :=
  (rows.filter fun r => r.tracked? == some c).map (·.outlet)

def mean (xs : List Float) : Float :=
  if xs.isEmpty then 0 else xs.foldl (· + ·) 0 / Float.ofNat xs.length

def meanOutlets (rows : List Measurement) : Panel Float := .ofFn fun c => mean (outletsOf rows c)

def firstRows (seen : List String) : List Measurement → List Measurement
  | [] => []
  | r :: rs =>
    if seen.contains r.nodeId then firstRows seen rs
    else r :: firstRows (r.nodeId :: seen) rs

/-- The flow of the site, each node counted once by its first row. -/
def totalFlow (rows : List Measurement) : Float :=
  (firstRows [] rows).foldl (fun sum r => sum + r.flow) (-0.0)

def coordinatesOf (concentrations thresholds : Panel Float) (weights : HazardTable) :
    Except Violation (List RiskCoordinate) := do
  thresholds.requirePositive
  Contaminant.all.mapM fun c =>
    RiskCoordinate.unit (concentrations.get c / thresholds.get c) (weights.weight c.name)

structure Certification where
  impacts : List Impact
  state : Accumulated
  coordinates : List RiskCoordinate
  potential : Float
  conservation : ConservationVerdict
  stability : StabilityVerdict
  record : Record
  encoded : List UInt8
  deriving DecidableEq

namespace Certification

def accepted (c : Certification) : Bool := c.conservation.passed && c.stability.passed

/-- A first cycle is compared with its own potential. -/
def stabilityOf (s : Settings) (potential : Float) (coordinates : List RiskCoordinate) :
    StabilityVerdict :=
  .ofStep ⟨s.previousPotential.getD potential, s.interior.previous⟩
    ⟨potential, s.interior.next⟩ coordinates

def siteStateOf (rows : List Measurement) (s : Settings) (impacts : List Impact)
    (state : Accumulated) : SiteState Float :=
  { context := s.context
    concentrations := meanOutlets rows
    thresholds := s.thresholds
    hydraulics := ⟨totalFlow rows, s.site.velocity, s.site.availableEnergy⟩
    indices := ⟨Impact.total impacts, state.risk, s.site.bioStress⟩ }

def ofRows (rows : List Measurement) (s : Settings) :
    Except CertificationError Certification := do
  s.validate.mapError .settings
  let impacts ← (Impact.ofRows s.hazardWeights s.windowSeconds rows).mapError .settings
  let state := Accumulated.zero.run rows
  let coordinates ←
    (coordinatesOf (meanOutlets rows) s.thresholds s.hazardWeights).mapError .settings
  let potential ← (potentialOf coordinates).mapError .gate
  let siteState := siteStateOf rows s impacts state
  let record ← (Record.ofState (siteState.map .ofFloat) (s.residual.map .ofFloat)
    s.tolerances).mapError .settings
  return {
    impacts := impacts
    state := state
    coordinates := coordinates
    potential := potential
    conservation := .ofResidual s.residual s.tolerances
    stability := stabilityOf s potential coordinates
    record := record
    encoded := record.encode }

end Certification

namespace Event

def ofLoading (bytes : List UInt8) : List Event :=
  let entries := match NodeTable.body bytes with
    | .ok records => NodeTable.entriesBeforeError records
    | .error _ => []
  let short := entries.filterMap fun
    | .short line columns => some (.shortRow line columns)
    | .row _ => none
  match NodeTable.load bytes with
  | .ok loaded => short ++ [.rowsLoaded loaded.rows.length loaded.skipped]
  | .error _ => short

/-- What a cycle tells; settings that are refused leave it silent. -/
def ofCycle (rows : List Measurement) (s : Settings) : List Event :=
  match s.validate with
  | .error _ => []
  | .ok _ =>
    let complete := match Certification.ofRows rows s with
      | .error _ => []
      | .ok c =>
        [ .cycleComplete rows.length (Impact.total c.impacts) c.potential c.conservation
            c.stability ]
    ofIntegration s.hazardWeights s.windowSeconds rows ++
      ofAccumulation .zero rows ++ complete

end Event

end SiteSafety
