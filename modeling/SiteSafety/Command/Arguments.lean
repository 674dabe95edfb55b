import SiteSafety.Decimal.Numeral

namespace SiteSafety.Command

structure Options where
  nodes : String
  config : Option String
  windowSeconds : Option Float
  siteId : String
  report : Option String
  metrics : Bool
  jsonLogs : Bool
  deriving DecidableEq

def defaultSite : String := "phoenix"

structure Given where
  nodes : Option String
  config : Option String
  windowSeconds : Option Float
  siteId : Option String
  report : Option String
  metrics : Bool
  jsonLogs : Bool
  deriving DecidableEq

def Given.none : Given := ⟨.none, .none, .none, .none, .none, false, false⟩

inductive OptionName where
  | nodes
  | config
  | windowSeconds
  | siteId
  | report
  deriving DecidableEq

inductive SwitchName where
  | metrics
  | jsonLogs
  deriving DecidableEq

def option? : String → Option OptionName
  | "nodes" => some .nodes
  | "config" => some .config
  | "window-seconds" => some .windowSeconds
  | "site-id" => some .siteId
  | "report" => some .report
  | _ => none

def switch? : String → Option SwitchName
  | "metrics" => some .metrics
  | "json-logs" => some .jsonLogs
  | _ => none

def once {α : Type} (old : Option α) (new : Option α) : Option (Option α) :=
  match old, new with
  | none, some x => some (some x)
  | _, _ => none

def path? (s : String) : Option String := if s.isEmpty then none else some s

namespace Given

def setOption (g : Given) (name : OptionName) (value : String) : Option Given :=
  match name with
  | .nodes => (once g.nodes (path? value)).map fun v => { g with nodes := v }
  | .config => (once g.config (path? value)).map fun v => { g with config := v }
  | .windowSeconds =>
    (once g.windowSeconds (Decimal.numeral? value.toList)).map fun v =>
      { g with windowSeconds := v }
  | .siteId => (once g.siteId (some value)).map fun v => { g with siteId := v }
  | .report => (once g.report (path? value)).map fun v => { g with report := v }

def setSwitch (g : Given) (name : SwitchName) : Option Given :=
  match name with
  | .metrics => if g.metrics then .none else some { g with metrics := true }
  | .jsonLogs => if g.jsonLogs then .none else some { g with jsonLogs := true }

def toOptions (g : Given) : Option Options :=
  g.nodes.map fun nodes =>
    { nodes := nodes
      config := g.config
      windowSeconds := g.windowSeconds
      siteId := g.siteId.getD defaultSite
      report := g.report
      metrics := g.metrics
      jsonLogs := g.jsonLogs }

end Given

def longWord? (word : String) : Option (String × Option String) :=
  match word.toList with
  | '-' :: '-' :: cs =>
    match cs.dropWhile (· != '=') with
    | [] => some (String.ofList cs, none)
    | _ :: value => some (String.ofList (cs.takeWhile (· != '=')), some (String.ofList value))
  | _ => none

def isValue (word : String) : Bool := word == "-" || !word.startsWith "-"

/-- An option has its value behind `=` or as the next word, which starts with no dash unless it is one.
Options and switches stand at most once. -/
def parseFrom (g : Given) : List String → Option Given
  | [] => some g
  | ["--"] => some g
  | word :: rest =>
    match longWord? word with
    | none => none
    | some (name, value) =>
      match option? name, switch? name, value, rest with
      | some o, _, some v, rest => (g.setOption o v).bind fun g => parseFrom g rest
      | some o, _, none, v :: rest =>
        if isValue v then (g.setOption o v).bind fun g => parseFrom g rest else none
      | none, some s, none, rest => (g.setSwitch s).bind fun g => parseFrom g rest
      | _, _, _, _ => none

def parse (words : List String) : Option Options := (parseFrom .none words).bind Given.toOptions

end SiteSafety.Command
