import SiteSafety.Accumulated
import SiteSafety.Verdict
import SiteSafety.Decimal.Layout
import SiteSafety.Text.Encoding

namespace SiteSafety

inductive Gauge where
  | nodeKn
  | nodeKnSigma
  | stateMass
  | stateRisk
  | gatePass
  deriving DecidableEq

namespace Gauge

def all : List Gauge := [.nodeKn, .nodeKnSigma, .stateMass, .stateRisk, .gatePass]

def name : Gauge → String
  | .nodeKn => "ceim_node_kn"
  | .nodeKnSigma => "ceim_node_kn_sigma"
  | .stateMass => "cpvm_state_mass"
  | .stateRisk => "cpvm_state_risk"
  | .gatePass => "ecosafety_gate_pass"

def help : Gauge → String
  | .nodeKn => "Windowed CEIM impact Kn per node and contaminant"
  | .nodeKnSigma => "Uncertainty of the CEIM impact Kn"
  | .stateMass => "Cumulative CPVM mass-load"
  | .stateRisk => "Cumulative CPVM risk"
  | .gatePass => "1 when the gate passed in the last certification cycle, else 0"

def labels : Gauge → List String
  | .nodeKn => ["node_id", "contaminant"]
  | .nodeKnSigma => ["node_id", "contaminant"]
  | .stateMass => ["site_id"]
  | .stateRisk => ["site_id"]
  | .gatePass => ["site_id", "gate"]

end Gauge

structure Series where
  labels : List String
  value : Float
  deriving DecidableEq

namespace Series

def hashByte (h : UInt64) (b : UInt8) : UInt64 := (h ^^^ b.toUInt64) * 0x100000001b3

def key (labels : List String) : UInt64 :=
  (labels.flatMap Text.encode).foldl hashByte 0xcbf29ce484222325

/-- Sets the series of these labels, or begins it at the end. A series is found by the hash of its label
values, which run on without a separator, and keeps the labels that it was first given. -/
def observe (labels : List String) (value : Float) : List Series → List Series
  | [] => [⟨labels, value⟩]
  | s :: rest =>
    if key s.labels = key labels then { s with value := value } :: rest
    else s :: observe labels value rest

end Series

structure Gauges where
  nodeKn : List Series
  nodeKnSigma : List Series
  stateMass : List Series
  stateRisk : List Series
  gatePass : List Series
  deriving DecidableEq

namespace Gauges

def empty : Gauges := ⟨[], [], [], [], []⟩

def series (g : Gauges) : Gauge → List Series
  | .nodeKn => g.nodeKn
  | .nodeKnSigma => g.nodeKnSigma
  | .stateMass => g.stateMass
  | .stateRisk => g.stateRisk
  | .gatePass => g.gatePass

def observe (g : Gauges) (gauge : Gauge) (labels : List String) (value : Float) : Gauges :=
  match gauge with
  | .nodeKn => { g with nodeKn := Series.observe labels value g.nodeKn }
  | .nodeKnSigma => { g with nodeKnSigma := Series.observe labels value g.nodeKnSigma }
  | .stateMass => { g with stateMass := Series.observe labels value g.stateMass }
  | .stateRisk => { g with stateRisk := Series.observe labels value g.stateRisk }
  | .gatePass => { g with gatePass := Series.observe labels value g.gatePass }

def withImpact (g : Gauges) (i : Impact) : Gauges :=
  (g.observe .nodeKn [i.nodeId, i.contaminant] i.kn).observe
    .nodeKnSigma [i.nodeId, i.contaminant] i.sigma

def withImpacts (g : Gauges) (impacts : List Impact) : Gauges := impacts.foldl withImpact g

def withState (g : Gauges) (siteId : String) (s : Accumulated) : Gauges :=
  (g.observe .stateMass [siteId] s.mass).observe .stateRisk [siteId] s.risk

def withGate (g : Gauges) (siteId gate : String) (passed : Bool) : Gauges :=
  g.observe .gatePass [siteId, gate] (if passed then 1 else 0)

def conservationGate : String := "conservation"

def stabilityGate : String := "stability"

def withVerdicts (g : Gauges) (siteId : String) (c : ConservationVerdict)
    (s : StabilityVerdict) : Gauges :=
  (g.withGate siteId conservationGate c.passed).withGate siteId stabilityGate s.passed

end Gauges

def mustReject (c : ConservationVerdict) (s : StabilityVerdict) : Bool := !(c.passed && s.passed)

namespace Gauges

def pairs (gauge : Gauge) (s : Series) : List (String × String) :=
  (gauge.labels.zip s.labels).mergeSort fun a b => decide (a.1 ≤ b.1)

def sortedSeries (g : Gauges) (gauge : Gauge) : List Series :=
  (g.series gauge).mergeSort fun a b =>
    !decide ((pairs gauge b).map (·.2) < (pairs gauge a).map (·.2))

def escapedChar : Char → List Char
  | '\\' => ['\\', '\\']
  | '\n' => ['\\', 'n']
  | '"' => ['\\', '"']
  | c => [c]

def escaped (s : String) : String := String.ofList (s.toList.flatMap escapedChar)

def sample (gauge : Gauge) (s : Series) : String :=
  let labels := (pairs gauge s).map fun p => p.1 ++ "=\"" ++ escaped p.2 ++ "\""
  gauge.name ++ "\x7b" ++ ",".intercalate labels ++ "\x7d " ++ Decimal.plain s.value ++ "\n"

def family (g : Gauges) (gauge : Gauge) : String :=
  match g.sortedSeries gauge with
  | [] => ""
  | series =>
    "# HELP " ++ gauge.name ++ " " ++ gauge.help ++ "\n# TYPE " ++ gauge.name ++ " gauge\n" ++
      String.join (series.map (sample gauge))

def exposition (g : Gauges) : String := String.join (Gauge.all.map g.family)

end Gauges

/-- A registry takes the gauges once. -/
abbrev Registry := Option Gauges

structure AlreadyRegistered where
  deriving DecidableEq

def AlreadyRegistered.message (_ : AlreadyRegistered) : String :=
  "Duplicate metrics collector registration attempted"

namespace Registry

def empty : Registry := none

def register : Registry → Except AlreadyRegistered Registry
  | none => .ok (some .empty)
  | some _ => .error {}

end Registry

end SiteSafety
