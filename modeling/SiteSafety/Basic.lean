import SiteSafety.Decimal.Layout

namespace SiteSafety

inductive Contaminant where
  | pfbs
  | eColi
  | tp
  | tds
  deriving DecidableEq

namespace Contaminant

def all : List Contaminant := [.pfbs, .eColi, .tp, .tds]

def name : Contaminant → String
  | .pfbs => "PFBS"
  | .eColi => "EColi"
  | .tp => "TP"
  | .tds => "TDS"

def ofName? (name : String) : Option Contaminant := all.find? (·.name == name)

/-- The code by which callers that pass numbers only refer to a contaminant. -/
def code : Contaminant → UInt8
  | .pfbs => 0
  | .eColi => 1
  | .tp => 2
  | .tds => 3

def ofCode? (code : UInt8) : Option Contaminant := all.find? (·.code == code)

end Contaminant

/-- A value for each tracked contaminant: PFBS in ng/L, E. coli in MPN/100 mL, total phosphorus and
total dissolved solids in mg/L. -/
structure Panel (α : Type) where
  pfbs : α
  eColi : α
  tp : α
  tds : α
  deriving DecidableEq, Inhabited

namespace Panel

variable {α β : Type}

def get (p : Panel α) : Contaminant → α
  | .pfbs => p.pfbs
  | .eColi => p.eColi
  | .tp => p.tp
  | .tds => p.tds

def set (p : Panel α) (c : Contaminant) (x : α) : Panel α :=
  match c with
  | .pfbs => { p with pfbs := x }
  | .eColi => { p with eColi := x }
  | .tp => { p with tp := x }
  | .tds => { p with tds := x }

def ofFn (f : Contaminant → α) : Panel α := ⟨f .pfbs, f .eColi, f .tp, f .tds⟩

def toList (p : Panel α) : List α := [p.pfbs, p.eColi, p.tp, p.tds]

def map (f : α → β) (p : Panel α) : Panel β := ⟨f p.pfbs, f p.eColi, f p.tp, f p.tds⟩

def zeros : Panel Float := ⟨0, 0, 0, 0⟩

def regulatoryLimits : Panel Float := ⟨2000, 126, 0.1, 500⟩

end Panel

structure Measurement where
  nodeId : String
  location : String
  system : String
  contaminant : String
  parameter : String
  unit : String
  inlet : Float
  outlet : Float
  /-- Volumetric flow, m3/s. -/
  flow : Float
  reference : Float
  supply : Float
  ecoImpactScore : Float
  karmaPerUnit : Float
  notes : Option String
  deriving DecidableEq

/-- Removal normalised by the reference limit. Without a positive limit there is nothing to
normalise by and the ratio is zero. -/
def removalRatio (inlet outlet reference : Float) : Float :=
  if reference > 0 then (inlet - outlet) / reference else 0

namespace Measurement

def ratio (r : Measurement) : Float := removalRatio r.inlet r.outlet r.reference

def isNormalised (r : Measurement) : Bool := r.reference > 0

def tracked? (r : Measurement) : Option Contaminant := Contaminant.ofName? r.contaminant

end Measurement

open Decimal (plain)

inductive Violation where
  | nonPositiveWindow (seconds : Float)
  | nonPositiveReference (contaminant : String) (value : Float)
  | negativeFlow (flow : Float)
  | negativeWeight (contaminant : String) (weight : Float)
  | negativeTolerance (quantity : String) (value : Float)
  | stressOutOfRange (stress : Float)
  | invalidCorridor (rmin rmax : Float)
  | nonFinite (quantity : String)
  deriving DecidableEq

def Violation.message : Violation → String
  | .nonPositiveWindow s => "integration window must be positive, got " ++ plain s ++ " s"
  | .nonPositiveReference c x =>
    "reference threshold for " ++ c ++ " must be positive, got " ++ plain x
  | .negativeFlow q => "volumetric flow must be non-negative, got " ++ plain q ++ " m3/s"
  | .negativeWeight c w => "hazard weight for " ++ c ++ " must be non-negative, got " ++ plain w
  | .negativeTolerance q x => q ++ " tolerance must be non-negative, got " ++ plain x
  | .stressOutOfRange s => "bio stress index must lie in [0, 1], got " ++ plain s
  | .invalidCorridor rmin rmax =>
    "corridor requires rmax > rmin, got [" ++ plain rmin ++ ", " ++ plain rmax ++ "]"
  | .nonFinite q => q ++ " must be finite"

/-- Integration windows, in seconds, are positive; a NaN is not. -/
def requireWindow (seconds : Float) : Except Violation Unit :=
  if seconds > 0 then .ok () else .error (.nonPositiveWindow seconds)

/-- Stress indices lie in the closed unit interval; a NaN does not. -/
def requireStress (stress : Float) : Except Violation Unit :=
  if 0 ≤ stress ∧ stress ≤ 1 then .ok () else .error (.stressOutOfRange stress)

end SiteSafety
