import SiteSafety.Verdict

namespace SiteSafety

structure Record where
  context : Context
  conservationOk : Bool
  reservedFlags : Vector UInt8 2
  concentrations : Panel Binary64
  thresholds : Panel Binary64
  hydraulics : Hydraulics Binary64
  indices : Indices Binary64
  residual : Residual Binary64
  reserved : Vector UInt8 16
  deriving DecidableEq

namespace Record

def siteState (r : Record) : SiteState Binary64 :=
  { context := r.context
    concentrations := r.concentrations
    thresholds := r.thresholds
    hydraulics := r.hydraulics
    indices := r.indices }

def words (r : Record) : List Binary64 :=
  r.concentrations.toList ++ r.thresholds.toList ++
    [ r.hydraulics.flow, r.hydraulics.velocity, r.hydraulics.availableEnergy,
      r.indices.impactDelta, r.indices.viability, r.indices.bioStress,
      r.residual.mass, r.residual.energy ]

def ofState (state : SiteState Binary64) (residual : Residual Binary64) (t : Tolerances) :
    Except Violation Record := do
  (state.map Binary64.toFloat).validate
  t.validate
  let verdict := ConservationVerdict.ofResidual (residual.map Binary64.toFloat) t
  return {
    context := state.context
    conservationOk := verdict.passed
    reservedFlags := .replicate 2 0
    concentrations := state.concentrations
    thresholds := state.thresholds
    hydraulics := state.hydraulics
    indices := state.indices
    residual := residual
    reserved := .replicate 16 0 }

def sameMarks (a b : Record) : Bool :=
  a.context == b.context && a.conservationOk == b.conservationOk &&
    a.reservedFlags == b.reservedFlags && a.reserved == b.reserved

def sameBits (a b : Record) : Bool :=
  sameMarks a b && (a.words.zip b.words).all fun p => p.1.bits == p.2.bits

def sameNumbers (a b : Record) : Bool :=
  sameMarks a b && (a.words.zip b.words).all fun p => p.1.sameNumber p.2

end Record

end SiteSafety
