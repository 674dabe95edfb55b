import SiteSafety.Command.Arguments
import SiteSafety.Gauges
import SiteSafety.Report
import SiteSafety.Schema.Settings

namespace SiteSafety.Command

/-- A file that cannot be opened, or one that opens but gives no bytes, such as a directory. -/
inductive ReadError where
  | opening (cause : FileError)
  | reading (cause : FileError)
  deriving DecidableEq

def ReadError.cause : ReadError → FileError
  | .opening e => e
  | .reading e => e

def ReadError.toLoadError : ReadError → LoadError
  | .opening e => .unopened e
  | .reading e => .unreadable e

structure Files where
  read : String → Except ReadError (List UInt8)
  writeError? : String → Option FileError

/-- Why a run stops: what it was doing, and the causes behind it, outermost first. -/
structure Failure where
  message : String
  causes : List String
  deriving DecidableEq

inductive Error where
  | readingSettings (path : String) (cause : FileError)
  | parsingSettings (path : String) (cause : Json.Refusal)
  | loadingNodes (path : String) (cause : LoadError)
  | certifying (cause : CertificationError)
  | writingReport (path : String) (cause : FileError)
  deriving DecidableEq

def refusalText : Json.Refusal → String
  | .mismatch => "a value has the wrong type"
  | .malformed => "the document is malformed"
  | .truncated => "the document ends early"

namespace Error

def failure : Error → Failure
  | .readingSettings path e => ⟨"reading config " ++ path, [e.message]⟩
  | .parsingSettings path e => ⟨"parsing config " ++ path, [refusalText e]⟩
  | .loadingNodes path e => ⟨"loading nodes from " ++ path, e.message :: e.causes⟩
  | .certifying e => ⟨e.message, [e.cause]⟩
  | .writingReport path e => ⟨"writing report " ++ path, [e.message]⟩

end Error

namespace Failure

def hanging (first further : String) (text : String) : List String :=
  match text.splitOn "\n" with
  | [] => [first]
  | line :: lines => (first ++ line) :: lines.map (further ++ ·)

def numbered (index : Nat) (cause : String) : List String :=
  hanging ("".pushn ' ' (5 - (toString index).length) ++ toString index ++ ": ") "       " cause

def causeLines : List String → List String
  | [cause] => hanging "    " "    " cause
  | causes => (causes.mapIdx numbered).flatten

def lines (f : Failure) : List String :=
  ("Error: " ++ f.message).splitOn "\n" ++
    if f.causes.isEmpty then [] else ["", "Caused by:"] ++ causeLines f.causes

end Failure

structure Result where
  output : String
  events : List Event
  report : Option (String × String)
  error : Option Error
  deriving DecidableEq

def Result.exitCode (r : Result) : Nat := if r.error.isSome then 1 else 0

def stopped (events : List Event) (error : Error) : Result :=
  { output := "", events := events, report := none, error := some error }

/-- The settings: from the file if one is named, with the window replaced if one is given. -/
def loadSettings (files : Files) (o : Options) : Except Error Settings := do
  let c ← match o.config with
    | none => .ok .standard
    | some path => do
      let bytes ← (files.read path).mapError fun e => .readingSettings path e.cause
      match Text.decode bytes with
      | .error _ => .error (.readingSettings path ⟨"stream did not contain valid UTF-8"⟩)
      | .ok document => (Settings.read document).mapError (.parsingSettings path)
  return { c with windowSeconds := o.windowSeconds.getD c.windowSeconds }

def impactLine (i : Impact) : String :=
  i.nodeId ++ "," ++ i.contaminant ++ ",Kn=" ++ Decimal.plain i.kn ++ ",Kn_sigma=" ++
    Decimal.plain i.sigma ++ "\n"

def heading (siteId : String) : String := siteId ++ " CEIM Kn estimates:\n"

def stateLine (s : Accumulated) : String :=
  "CPVM final mass=" ++ Decimal.plain s.mass ++ " risk=" ++ Decimal.plain s.risk ++ "\n"

def summary (siteId : String) (c : Certification) : String :=
  heading siteId ++ String.join (c.impacts.map impactLine) ++ stateLine c.state

def gauges (siteId : String) (c : Certification) : Gauges :=
  ((Gauges.empty.withImpacts c.impacts).withState siteId c.state).withVerdicts siteId
    c.conservation c.stability

def verdictEvents (siteId : String) (c : Certification) : List Event :=
  (if c.conservation.passed then []
    else [.gateFailed Gauges.conservationGate siteId c.conservation.reason]) ++
  (if c.stability.passed then []
    else [.gateFailed Gauges.stabilityGate siteId c.stability.reason]) ++
  [if mustReject c.conservation c.stability then .notCertified siteId else .certified siteId]

/-- What follows a completed cycle: the summary, the report if one is asked for, and the gauges. A
report that cannot be written leaves the gauges out. -/
def publish (files : Files) (stamp : Stamp) (o : Options) (s : Settings) (skipped : Nat)
    (events : List Event) (c : Certification) : Result :=
  let events := events ++ verdictEvents o.siteId c
  let summary := summary o.siteId c
  let exposition := if o.metrics then (gauges o.siteId c).exposition else ""
  match o.report with
  | none =>
    { output := summary ++ exposition, events := events, report := none, error := none }
  | some path =>
    match files.writeError? path with
    | some e =>
      { output := summary, events := events, report := none, error := some (.writingReport path e) }
    | none =>
      let report := Report.ofCertification stamp o.siteId s.windowSeconds skipped c
      { output := summary ++ exposition
        events := events ++ [.reportWritten path]
        report := some (path, report.text)
        error := none }

def runLoaded (files : Files) (stamp : Stamp) (o : Options) (s : Settings) (bytes : List UInt8)
    (loaded : NodeTable.Loaded) : Result :=
  let events := Event.ofLoading bytes ++ Event.ofCycle loaded.rows s
  match Certification.ofRows loaded.rows s with
  | .error e => stopped events (.certifying e)
  | .ok c => publish files stamp o s loaded.skipped events c

/-- The settings come before the nodes, the nodes before the cycle. -/
def run (files : Files) (stamp : Stamp) (o : Options) : Result :=
  match loadSettings files o with
  | .error e => stopped [] e
  | .ok s =>
    match files.read o.nodes with
    | .error e => stopped [] (.loadingNodes o.nodes e.toLoadError)
    | .ok bytes =>
      match NodeTable.load bytes with
      | .error e => stopped (Event.ofLoading bytes) (.loadingNodes o.nodes e)
      | .ok loaded => runLoaded files stamp o s bytes loaded

end SiteSafety.Command
