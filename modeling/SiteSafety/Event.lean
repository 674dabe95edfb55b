import SiteSafety.Accumulated
import SiteSafety.Verdict
import SiteSafety.Json.Basic

namespace SiteSafety

inductive LogLevel where
  | off
  | error
  | warn
  | info
  | debug
  | trace
  deriving DecidableEq

namespace LogLevel

def all : List LogLevel := [.off, .error, .warn, .info, .debug, .trace]

def rank : LogLevel → Nat
  | .off => 0
  | .error => 1
  | .warn => 2
  | .info => 3
  | .debug => 4
  | .trace => 5

def name : LogLevel → String
  | .off => "OFF"
  | .error => "ERROR"
  | .warn => "WARN"
  | .info => "INFO"
  | .debug => "DEBUG"
  | .trace => "TRACE"

end LogLevel

inductive Event where
  | shortRow (line columns : Nat)
  | rowsLoaded (rows skipped : Nat)
  | unknownContaminant (nodeId contaminant : String)
  | noReference (nodeId : String) (reference : Float)
  | windowIntegrated (rows : Nat) (windowSeconds : Float)
  | stepTaken (nodeId contaminant : String) (state : Accumulated)
  | stateNotFinite (state : Accumulated)
  | cycleComplete (rows : Nat) (impactDelta potential : Float)
      (conservation : ConservationVerdict) (stability : StabilityVerdict)
  | gateFailed (gate siteId reason : String)
  | notCertified (siteId : String)
  | certified (siteId : String)
  | reportWritten (path : String)
  deriving DecidableEq

namespace Event

def level : Event → LogLevel
  | .shortRow .. => .warn
  | .rowsLoaded .. => .info
  | .unknownContaminant .. => .debug
  | .noReference .. => .debug
  | .windowIntegrated .. => .debug
  | .stepTaken .. => .debug
  | .stateNotFinite .. => .warn
  | .cycleComplete .. => .info
  | .gateFailed .. => .warn
  | .notCertified .. => .warn
  | .certified .. => .info
  | .reportWritten .. => .info

def target : Event → String
  | .shortRow .. => "ecosafety_cli::loader"
  | .rowsLoaded .. => "ecosafety_cli::loader"
  | .unknownContaminant .. => "ceim_integrator::integrate"
  | .noReference .. => "ceim_integrator::integrate"
  | .windowIntegrated .. => "ceim_integrator::integrate"
  | .stepTaken .. => "cpvm_accumulator::step"
  | .stateNotFinite .. => "cpvm_accumulator::step"
  | .cycleComplete .. => "ecosafety_cli::pipeline"
  | .gateFailed .. => "prometheus_bridge::guards"
  | .notCertified .. => "ecosafety"
  | .certified .. => "ecosafety"
  | .reportWritten .. => "ecosafety"

def message : Event → String
  | .shortRow .. => "skipping short node row"
  | .rowsLoaded .. => "node rows loaded"
  | .unknownContaminant .. => "contaminant not in hazard table, using default weight"
  | .noReference .. => "non-positive reference, ratio forced to zero"
  | .windowIntegrated .. => "CEIM window integrated"
  | .stepTaken .. => "CPVM step"
  | .stateNotFinite .. => "CPVM state is no longer finite"
  | .cycleComplete .. => "certification cycle complete"
  | .gateFailed gate .. => gate ++ " gate failed"
  | .notCertified .. => "safety state not certified"
  | .certified .. => "safety state certified"
  | .reportWritten .. => "certification report written"

def details : Event → List (String × Json)
  | .shortRow line columns => [("line", .whole line), ("columns", .whole columns)]
  | .rowsLoaded rows skipped => [("rows", .whole rows), ("skipped", .whole skipped)]
  | .unknownContaminant nodeId contaminant =>
    [("node_id", .text nodeId), ("contaminant", .text contaminant)]
  | .noReference nodeId reference => [("node_id", .text nodeId), ("cref", .number reference)]
  | .windowIntegrated rows seconds =>
    [("rows", .whole rows), ("window_seconds", .number seconds)]
  | .stepTaken nodeId contaminant state =>
    [ ("node_id", .text nodeId), ("contaminant", .text contaminant),
      ("state_mass", .number state.mass), ("state_risk", .number state.risk) ]
  | .stateNotFinite state =>
    [("state_mass", .number state.mass), ("state_risk", .number state.risk)]
  | .cycleComplete rows impactDelta potential conservation stability =>
    [ ("rows", .whole rows), ("kn_delta", .number impactDelta), ("potential", .number potential),
      ("conservation", .text conservation.reason), ("stability", .text stability.reason) ]
  | .gateFailed _ siteId reason => [("site_id", .text siteId), ("reason", .text reason)]
  | .notCertified siteId => [("site_id", .text siteId)]
  | .certified siteId => [("site_id", .text siteId)]
  | .reportWritten path => [("path", .text path)]

def fields (e : Event) : List (String × Json) := ("message", .text e.message) :: e.details

def toJson (e : Event) : Json := .object e.fields

def ofIntegration (weights : HazardTable) (windowSeconds : Float) (rows : List Measurement) :
    List Event :=
  (rows.flatMap fun r =>
    (if weights.contains r.contaminant then [] else [.unknownContaminant r.nodeId r.contaminant]) ++
    (if r.isNormalised then [] else [.noReference r.nodeId r.reference])) ++
  [.windowIntegrated rows.length windowSeconds]

def ofAccumulation (s : Accumulated) : List Measurement → List Event
  | [] => if s.isFinite then [] else [.stateNotFinite s]
  | r :: rs => .stepTaken r.nodeId r.contaminant (s.step r) :: ofAccumulation (s.step r) rs

end Event

end SiteSafety
