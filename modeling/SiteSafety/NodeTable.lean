import SiteSafety.Basic
import SiteSafety.Csv
import SiteSafety.Decimal.Numeral
import SiteSafety.Text.Characters
import SiteSafety.Text.Quoted

namespace SiteSafety

structure FileError where
  message : String
  deriving DecidableEq

inductive LoadError where
  | unopened (cause : FileError)
  | unreadable (cause : FileError)
  | invalidText (cause : Csv.InvalidText)
  | missingHeader
  | badNumber (line column : Nat) (name value : String)
  deriving DecidableEq

namespace LoadError

def message : LoadError → String
  | .unopened e => "cannot open node file: " ++ e.message
  | .unreadable e => "malformed node file: " ++ e.message
  | .invalidText e => "malformed node file: " ++ e.message
  | .missingHeader => "node file has no header line"
  | .badNumber line column name value =>
    "line " ++ toString line ++ ": column " ++ toString column ++ " (" ++ name ++
      ") is not a number: " ++ Text.quoted value

def causes : LoadError → List String
  | .unopened e => [e.message]
  | .unreadable e => [e.message, e.message]
  | .invalidText e => [e.message, e.reason]
  | .missingHeader => []
  | .badNumber .. => []

end LoadError

namespace NodeTable

def columns : Nat := 13

def firstNumeric : Nat := 6

def numericNames : List String :=
  [ "baseline_cin", "baseline_cout", "q_cms", "cref", "wsup", "eco_impact_score",
    "karma_per_unit" ]

inductive Entry where
  | row (r : Measurement)
  | short (line columns : Nat)
  deriving DecidableEq

def textAt (fields : List String) (column : Nat) : String := fields.getD column ""

def readNumber (s : String) : Option Float := Decimal.numeral? (Text.trim s.toList)

def numberAt (line : Nat) (fields : List String) (column : Nat) : Except LoadError Float :=
  match readNumber (textAt fields column) with
  | some x => .ok x
  | none =>
    .error (.badNumber line column (numericNames.getD (column - firstNumeric) "")
      (textAt fields column))

def readRow (line : Nat) (fields : List String) : Except LoadError Measurement := do
  let number := numberAt line fields
  return {
    nodeId := textAt fields 0
    location := textAt fields 1
    system := textAt fields 2
    contaminant := textAt fields 3
    parameter := textAt fields 4
    unit := textAt fields 5
    inlet := ← number 6
    outlet := ← number 7
    flow := ← number 8
    reference := ← number 9
    supply := ← number 10
    ecoImpactScore := ← number 11
    karmaPerUnit := ← number 12
    notes := fields[13]? }

def textsOf (r : Csv.RawRecord) : Except LoadError (List String) :=
  r.texts.mapError .invalidText

def readEntry (r : Csv.RawRecord) : Except LoadError Entry := do
  let fields ← textsOf r
  if fields.length < columns then return .short r.position.line fields.length
  else return .row (← readRow r.position.line fields)

structure Loaded where
  rows : List Measurement
  skipped : Nat
  deriving DecidableEq

def rowOf? : Entry → Option Measurement
  | .row r => some r
  | .short .. => none

def Loaded.ofEntries (entries : List Entry) : Loaded :=
  let rows := entries.filterMap rowOf?
  ⟨rows, entries.length - rows.length⟩

def entriesBeforeError : List Csv.RawRecord → List Entry
  | [] => []
  | r :: rs =>
    match readEntry r with
    | .ok e => e :: entriesBeforeError rs
    | .error _ => []

def body (bytes : List UInt8) : Except LoadError (List Csv.RawRecord) :=
  match Csv.records bytes with
  | [] => .error .missingHeader
  | header :: rest => (textsOf header).map fun _ => rest

def load (bytes : List UInt8) : Except LoadError Loaded := do
  let records ← body bytes
  return .ofEntries (← records.mapM readEntry)

end NodeTable

end SiteSafety
