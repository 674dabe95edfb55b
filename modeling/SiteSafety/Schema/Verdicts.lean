import SiteSafety.Verdict
import SiteSafety.Json.Schema

namespace SiteSafety

open Json (Schema)

def RiskCoordinate.schema : Schema RiskCoordinate where
  form := Json.Form.fields
    [ Schema.float.required "rx", Schema.float.required "w", Schema.float.required "rmin",
      Schema.float.required "rmax" ]
  toJson c := .object
    [ ("rx", .number c.risk), ("w", .number c.weight), ("rmin", .number c.rmin),
      ("rmax", .number c.rmax) ]
  ofJson? j := return {
    risk := ← Schema.float.get? j "rx"
    weight := ← Schema.float.get? j "w"
    rmin := ← Schema.float.get? j "rmin"
    rmax := ← Schema.float.get? j "rmax" }

def PotentialState.schema : Schema PotentialState where
  form := Json.Form.fields
    [Schema.float.required "vt", Schema.bool.required "inside_interior"]
  toJson s := .object [("vt", .number s.value), ("inside_interior", .flag s.interior)]
  ofJson? j := return {
    value := ← Schema.float.get? j "vt"
    interior := ← Schema.bool.get? j "inside_interior" }

def ConservationVerdict.schema : Schema ConservationVerdict where
  form := Json.Form.fields [Schema.bool.required "mass_ok", Schema.bool.required "energy_ok"]
  toJson v := .object [("mass_ok", .flag v.massOk), ("energy_ok", .flag v.energyOk)]
  ofJson? j := return {
    massOk := ← Schema.bool.get? j "mass_ok"
    energyOk := ← Schema.bool.get? j "energy_ok" }

namespace StabilityVerdict

def breachForm : Json.Form := Json.Form.fields
  [ (Schema.nat UInt64.size).required "index", Schema.float.required "rx",
    Schema.float.required "rmin", Schema.float.required "rmax" ]

def breachOf? (j : Json) : Option StabilityVerdict := do
  return .corridorBreach (← (Schema.nat UInt64.size).get? j "index") (← Schema.float.get? j "rx")
    (← Schema.float.get? j "rmin") (← Schema.float.get? j "rmax")

def increaseForm : Json.Form := Json.Form.fields
  [Schema.float.required "prev", Schema.float.required "next"]

def increaseOf? (j : Json) : Option StabilityVerdict := do
  return .potentialIncrease (← Schema.float.get? j "prev") (← Schema.float.get? j "next")

def schema : Schema StabilityVerdict where
  form := Json.Form.choice
    [ ⟨"Safe", none⟩, ⟨"NoCorridor", none⟩, ⟨"CorridorBreach", some breachForm⟩,
      ⟨"PotentialIncrease", some increaseForm⟩ ]
  toJson
    | .safe => .text "Safe"
    | .noCorridor => .text "NoCorridor"
    | .corridorBreach index risk rmin rmax => .object
      [ ("CorridorBreach", .object
        [ ("index", .whole index), ("rx", .number risk), ("rmin", .number rmin),
          ("rmax", .number rmax) ]) ]
    | .potentialIncrease prev next => .object
      [("PotentialIncrease", .object [("prev", .number prev), ("next", .number next)])]
  ofJson?
    | .text "Safe" => some .safe
    | .text "NoCorridor" => some .noCorridor
    | .object [("CorridorBreach", j)] => breachOf? j
    | .object [("PotentialIncrease", j)] => increaseOf? j
    | _ => none

end StabilityVerdict

end SiteSafety
