import SiteSafety.Accumulated
import SiteSafety.Json.Schema

namespace SiteSafety

open Json (Schema)

def Contaminant.variantName : Contaminant → String
  | .pfbs => "Pfbs"
  | .eColi => "EColi"
  | .tp => "Tp"
  | .tds => "Tds"

def Contaminant.schema : Schema Contaminant := .named Contaminant.all Contaminant.variantName

def Measurement.schema : Schema Measurement where
  form := Json.Form.fields
    [ Schema.string.required "node_id", Schema.string.required "location",
      Schema.string.required "system", Schema.string.required "contaminant",
      Schema.string.required "parameter", Schema.string.required "unit",
      Schema.float.required "baseline_cin", Schema.float.required "baseline_cout",
      Schema.float.required "q_cms", Schema.float.required "cref", Schema.float.required "wsup",
      Schema.float.required "eco_impact_score", Schema.float.required "karma_per_unit",
      Schema.string.option.defaulted "notes" ]
  toJson r := .object <|
    [ ("node_id", .text r.nodeId), ("location", .text r.location), ("system", .text r.system),
      ("contaminant", .text r.contaminant), ("parameter", .text r.parameter),
      ("unit", .text r.unit), ("baseline_cin", .number r.inlet),
      ("baseline_cout", .number r.outlet), ("q_cms", .number r.flow),
      ("cref", .number r.reference), ("wsup", .number r.supply),
      ("eco_impact_score", .number r.ecoImpactScore),
      ("karma_per_unit", .number r.karmaPerUnit) ] ++
    match r.notes with
    | none => []
    | some notes => [("notes", .text notes)]
  ofJson? j := return {
    nodeId := ← Schema.string.get? j "node_id"
    location := ← Schema.string.get? j "location"
    system := ← Schema.string.get? j "system"
    contaminant := ← Schema.string.get? j "contaminant"
    parameter := ← Schema.string.get? j "parameter"
    unit := ← Schema.string.get? j "unit"
    inlet := ← Schema.float.get? j "baseline_cin"
    outlet := ← Schema.float.get? j "baseline_cout"
    flow := ← Schema.float.get? j "q_cms"
    reference := ← Schema.float.get? j "cref"
    supply := ← Schema.float.get? j "wsup"
    ecoImpactScore := ← Schema.float.get? j "eco_impact_score"
    karmaPerUnit := ← Schema.float.get? j "karma_per_unit"
    notes := ← Schema.string.option.getD? j "notes" none }

def Impact.schema : Schema Impact where
  form := Json.Form.fields
    [ Schema.string.required "node_id", Schema.string.required "contaminant",
      Schema.float.required "kn", Schema.float.required "kn_sigma" ]
  toJson i := .object
    [ ("node_id", .text i.nodeId), ("contaminant", .text i.contaminant), ("kn", .number i.kn),
      ("kn_sigma", .number i.sigma) ]
  ofJson? j := return {
    nodeId := ← Schema.string.get? j "node_id"
    contaminant := ← Schema.string.get? j "contaminant"
    kn := ← Schema.float.get? j "kn"
    sigma := ← Schema.float.get? j "kn_sigma" }

def Accumulated.schema : Schema Accumulated where
  form := Json.Form.fields
    [Schema.float.required "state_mass", Schema.float.required "state_risk"]
  toJson s := .object [("state_mass", .number s.mass), ("state_risk", .number s.risk)]
  ofJson? j := return {
    mass := ← Schema.float.get? j "state_mass"
    risk := ← Schema.float.get? j "state_risk" }

def HazardTable.entry? : String × Json → Option (String × Float)
  | (name, j) => (Schema.float.ofJson? j).map (name, ·)

/-- The last weight of a repeated name counts. -/
def HazardTable.schema : Schema HazardTable where
  form := Json.Form.table Schema.float.form
  toJson t := .object (t.entries.map fun e => (e.1, .number e.2))
  ofJson?
    | .object fields => (fields.mapM HazardTable.entry?).map HazardTable.ofList
    | _ => none

end SiteSafety
