import SiteSafety.Settings
import SiteSafety.Schema.SiteState

namespace SiteSafety

open Json (Schema)

def Tolerances.schema : Schema Tolerances where
  form := Json.Form.fields [Schema.float.required "mass", Schema.float.required "energy"]
  toJson t := .object [("mass", .number t.mass), ("energy", .number t.energy)]
  ofJson? j := return {
    mass := ← Schema.float.get? j "mass"
    energy := ← Schema.float.get? j "energy" }

def SiteReadings.schema : Schema SiteReadings where
  form := Json.Form.fields
    [ Schema.float.required "v_ms", Schema.float.required "e_avail_kwh",
      Schema.float.required "bio_stress_index" ]
  toJson s := .object
    [ ("v_ms", .number s.velocity), ("e_avail_kwh", .number s.availableEnergy),
      ("bio_stress_index", .number s.bioStress) ]
  ofJson? j := return {
    velocity := ← Schema.float.get? j "v_ms"
    availableEnergy := ← Schema.float.get? j "e_avail_kwh"
    bioStress := ← Schema.float.get? j "bio_stress_index" }

def Interior.schema : Schema Interior where
  form := Json.Form.fields [Schema.bool.required "previous", Schema.bool.required "next"]
  toJson f := .object [("previous", .flag f.previous), ("next", .flag f.next)]
  ofJson? j := return {
    previous := ← Schema.bool.get? j "previous"
    next := ← Schema.bool.get? j "next" }

namespace Settings

def toFields (c : Settings) : List (String × Json) :=
  [ ("window_seconds", .number c.windowSeconds),
    ("hazard_weights", HazardTable.schema.toJson c.hazardWeights),
    ("tolerances", Tolerances.schema.toJson c.tolerances),
    ("context", Context.schema.toJson c.context),
    ("thresholds", (Panel.schema Schema.float).toJson c.thresholds),
    ("site", SiteReadings.schema.toJson c.site),
    ("residual", (Residual.schema Schema.float).toJson c.residual),
    ("previous_potential", Schema.float.option.toJson c.previousPotential),
    ("interior", Interior.schema.toJson c.interior) ]

/-- A setting that is not mentioned keeps its standard value, and one that is mentioned is replaced
whole. -/
def schema : Schema Settings where
  form := Json.Form.fields
    [ Schema.float.defaulted "window_seconds", HazardTable.schema.defaulted "hazard_weights",
      Tolerances.schema.defaulted "tolerances", Context.schema.defaulted "context",
      (Panel.schema Schema.float).defaulted "thresholds", SiteReadings.schema.defaulted "site",
      (Residual.schema Schema.float).defaulted "residual",
      Schema.float.option.defaulted "previous_potential",
      Interior.schema.defaulted "interior" ]
  toJson c := .object c.toFields
  ofJson? j := return {
    windowSeconds := ← Schema.float.getD? j "window_seconds" standard.windowSeconds
    hazardWeights := ← HazardTable.schema.getD? j "hazard_weights" standard.hazardWeights
    tolerances := ← Tolerances.schema.getD? j "tolerances" standard.tolerances
    context := ← Context.schema.getD? j "context" standard.context
    thresholds := ← (Panel.schema Schema.float).getD? j "thresholds" standard.thresholds
    site := ← SiteReadings.schema.getD? j "site" standard.site
    residual := ← (Residual.schema Schema.float).getD? j "residual" standard.residual
    previousPotential :=
      ← Schema.float.option.getD? j "previous_potential" standard.previousPotential
    interior := ← Interior.schema.getD? j "interior" standard.interior }

def read (document : String) : Except Json.Refusal Settings := schema.read document

end Settings

end SiteSafety
