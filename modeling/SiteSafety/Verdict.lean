import SiteSafety.SiteState

namespace SiteSafety

def withinMass (residual : Residual Float) (tolerance : Float) : Bool :=
  residual.mass.abs ≤ tolerance

def withinEnergy (residual : Residual Float) (tolerance : Float) : Bool :=
  residual.energy ≤ tolerance

def conserves (residual : Residual Float) (mass energy : Float) : Bool :=
  withinMass residual mass && withinEnergy residual energy

structure ConservationVerdict where
  massOk : Bool
  energyOk : Bool
  deriving DecidableEq

namespace ConservationVerdict

def ofResidual (residual : Residual Float) (t : Tolerances) : ConservationVerdict :=
  ⟨withinMass residual t.mass, withinEnergy residual t.energy⟩

def passed (v : ConservationVerdict) : Bool := v.massOk && v.energyOk

def reason (v : ConservationVerdict) : String :=
  match v.massOk, v.energyOk with
  | true, true => "ok"
  | false, true => "net mass change exceeds tolerance"
  | true, false => "energy created beyond tolerance"
  | false, false => "mass and energy residuals exceed tolerance"

end ConservationVerdict

structure RiskCoordinate where
  risk : Float
  weight : Float
  rmin : Float
  rmax : Float
  deriving DecidableEq

namespace RiskCoordinate

def ofBounds (risk weight rmin rmax : Float) : Except Violation RiskCoordinate :=
  if ¬ weight ≥ 0 then .error (.negativeWeight "risk coordinate" weight)
  else if ¬ rmax > rmin then .error (.invalidCorridor rmin rmax)
  else .ok ⟨risk, weight, rmin, rmax⟩

def unit (risk weight : Float) : Except Violation RiskCoordinate := ofBounds risk weight 0 1

/-- A NaN risk is in no corridor. -/
def isInside (c : RiskCoordinate) : Bool := c.rmin ≤ c.risk && c.risk ≤ c.rmax

def hasCorridor (c : RiskCoordinate) : Bool := c.rmax > c.rmin

def energy (c : RiskCoordinate) : Float := c.weight * c.risk * c.risk

end RiskCoordinate

structure NegativeWeight where
  index : Nat
  weight : Float
  deriving DecidableEq

def NegativeWeight.message (e : NegativeWeight) : String :=
  "risk coordinate " ++ toString e.index ++ " has negative weight " ++ Decimal.plain e.weight

def potentialFrom (index : Nat) (sum : Float) :
    List RiskCoordinate → Except NegativeWeight Float
  | [] => .ok sum
  | c :: cs =>
    if c.weight < 0 then .error ⟨index, c.weight⟩
    else potentialFrom (index + 1) (sum + c.energy) cs

def potentialOf (coords : List RiskCoordinate) : Except NegativeWeight Float :=
  potentialFrom 0 0 coords

/-- No coordinate at all is no corridor. -/
def corridorsPresent (coords : List RiskCoordinate) : Bool :=
  !coords.isEmpty && coords.all (·.hasCorridor)

/-- The potential at one step, and whether the caller takes the step to be interior. -/
structure PotentialState where
  value : Float
  interior : Bool
  deriving DecidableEq

def growthSlack : Float := 1e-9

def potentialGrows (prev next : PotentialState) : Bool :=
  !prev.interior && !next.interior && next.value > prev.value + growthSlack

/-- The gate without reasons; it accepts a step that has no coordinates. -/
def acceptsStep (prev next : PotentialState) (coords : List RiskCoordinate) : Bool :=
  coords.all (·.isInside) && !potentialGrows prev next

inductive StabilityVerdict where
  | safe
  | noCorridor
  | corridorBreach (index : Nat) (risk rmin rmax : Float)
  | potentialIncrease (prev next : Float)
  deriving DecidableEq

namespace StabilityVerdict

def breachFrom? (index : Nat) : List RiskCoordinate → Option StabilityVerdict
  | [] => none
  | c :: cs =>
    if c.isInside then breachFrom? (index + 1) cs
    else some (.corridorBreach index c.risk c.rmin c.rmax)

/-- The gate with its reason. Missing corridors come first, then breaches, then growth. -/
def ofStep (prev next : PotentialState) (coords : List RiskCoordinate) : StabilityVerdict :=
  if !corridorsPresent coords then .noCorridor
  else match breachFrom? 0 coords with
    | some breach => breach
    | none =>
      if potentialGrows prev next then .potentialIncrease prev.value next.value else .safe

def passed : StabilityVerdict → Bool
  | .safe => true
  | _ => false

def reason : StabilityVerdict → String
  | .safe => "ok"
  | .noCorridor => "no corridor present"
  | .corridorBreach index risk rmin rmax =>
    "coordinate " ++ toString index ++ " at " ++ Decimal.plain risk ++ " outside corridor [" ++
      Decimal.plain rmin ++ ", " ++ Decimal.plain rmax ++ "]"
  | .potentialIncrease prev next =>
    "potential increased outside interior: " ++ Decimal.plain prev ++ " -> " ++ Decimal.plain next

end StabilityVerdict

end SiteSafety
