import SiteSafety.HazardTable

namespace SiteSafety

inductive CallStatus where
  | ok
  | err
  deriving DecidableEq

/-- Impacts are not clamped: a negative one means that the node added contamination. -/
def knOver (weight ratio flow windowSeconds : Float) : Float :=
  weight * ratio * (flow * windowSeconds)

def uncertaintyShare : Float := 0.05

def knUncertainty (kn : Float) : Float := kn.abs.sqrt * uncertaintyShare

structure Impact where
  nodeId : String
  contaminant : String
  kn : Float
  sigma : Float
  deriving DecidableEq

namespace Impact

def ofRow (weights : HazardTable) (windowSeconds : Float) (r : Measurement) : Impact :=
  let kn := knOver (weights.weight r.contaminant) r.ratio r.flow windowSeconds
  ⟨r.nodeId, r.contaminant, kn, knUncertainty kn⟩

def ofRows (weights : HazardTable) (windowSeconds : Float) (rows : List Measurement) :
    Except Violation (List Impact) := do
  requireWindow windowSeconds
  weights.validate
  return rows.map (ofRow weights windowSeconds)

/-- The sum in list order; that of no impact is negative zero, the neutral element of addition. -/
def total (impacts : List Impact) : Float := impacts.foldl (fun sum i => sum + i.kn) (-0.0)

end Impact

structure BareMeasurement where
  inlet : Float
  outlet : Float
  flow : Float
  reference : Float
  contaminant : UInt8
  deriving DecidableEq

structure KnEstimate where
  kn : Float
  sigma : Float
  deriving DecidableEq

/-- Contaminant codes that name no tracked contaminant have the default weight. -/
def weightOfCode (weights : Panel Float) (code : UInt8) : Float :=
  match Contaminant.ofCode? code with
  | some c => weights.get c
  | none => HazardTable.defaultWeight

def BareMeasurement.estimate (n : BareMeasurement) (weights : Panel Float) (windowSeconds : Float) :
    KnEstimate :=
  let kn := knOver (weightOfCode weights n.contaminant)
    (removalRatio n.inlet n.outlet n.reference) n.flow windowSeconds
  ⟨kn, knUncertainty kn⟩

/-- The estimate for one row, written over `out`. A call that lacks an argument changes nothing. -/
def estimateCall (node : Option BareMeasurement) (weights : Option (Panel Float))
    (windowSeconds : Float) (out : Option KnEstimate) : CallStatus × Option KnEstimate :=
  match node, weights, out with
  | some n, some w, some _ => (.ok, some (n.estimate w windowSeconds))
  | _, _, out => (.err, out)

end SiteSafety
