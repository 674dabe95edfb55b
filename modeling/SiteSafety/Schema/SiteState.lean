import SiteSafety.Record.Basic
import SiteSafety.Schema.Quantities

namespace SiteSafety

open Json (Schema)

def Context.documentName : Context → String
  | .urban => "URBAN"
  | .coastal => "COASTAL"

def Context.schema : Schema Context := .named [.urban, .coastal] Context.documentName

/-- A carried word, written as the number it stands for. -/
def Binary64.schema : Schema Binary64 where
  form := Schema.float.form
  toJson w := .number w.toFloat
  ofJson? j := (Schema.float.ofJson? j).map Binary64.ofFloat

section

variable {α : Type} (number : Schema α)

def Panel.schema : Schema (Panel α) where
  form := Json.Form.fields
    [ number.required "pfbs_ng_l", number.required "ecoli_mpn_100ml",
      number.required "tp_mg_l", number.required "tds_mg_l" ]
  toJson p := .object
    [ ("pfbs_ng_l", number.toJson p.pfbs), ("ecoli_mpn_100ml", number.toJson p.eColi),
      ("tp_mg_l", number.toJson p.tp), ("tds_mg_l", number.toJson p.tds) ]
  ofJson? j := return {
    pfbs := ← number.get? j "pfbs_ng_l"
    eColi := ← number.get? j "ecoli_mpn_100ml"
    tp := ← number.get? j "tp_mg_l"
    tds := ← number.get? j "tds_mg_l" }

def Hydraulics.schema : Schema (Hydraulics α) where
  form := Json.Form.fields
    [number.required "q_m3s", number.required "v_ms", number.required "e_avail_kwh"]
  toJson h := .object
    [ ("q_m3s", number.toJson h.flow), ("v_ms", number.toJson h.velocity),
      ("e_avail_kwh", number.toJson h.availableEnergy) ]
  ofJson? j := return {
    flow := ← number.get? j "q_m3s"
    velocity := ← number.get? j "v_ms"
    availableEnergy := ← number.get? j "e_avail_kwh" }

def Indices.schema : Schema (Indices α) where
  form := Json.Form.fields
    [ number.required "kn_delta", number.required "cpvm_value",
      number.required "bio_stress_index" ]
  toJson i := .object
    [ ("kn_delta", number.toJson i.impactDelta), ("cpvm_value", number.toJson i.viability),
      ("bio_stress_index", number.toJson i.bioStress) ]
  ofJson? j := return {
    impactDelta := ← number.get? j "kn_delta"
    viability := ← number.get? j "cpvm_value"
    bioStress := ← number.get? j "bio_stress_index" }

def Residual.schema : Schema (Residual α) where
  form := Json.Form.fields [number.required "delta_mass", number.required "delta_energy"]
  toJson r := .object
    [("delta_mass", number.toJson r.mass), ("delta_energy", number.toJson r.energy)]
  ofJson? j := return {
    mass := ← number.get? j "delta_mass"
    energy := ← number.get? j "delta_energy" }

def SiteState.schema : Schema (SiteState α) where
  form := Json.Form.fields
    [ Context.schema.required "context", (Panel.schema number).required "concentrations",
      (Panel.schema number).required "thresholds", (Hydraulics.schema number).required "hydraulics",
      (Indices.schema number).required "indices" ]
  toJson s := .object
    [ ("context", Context.schema.toJson s.context),
      ("concentrations", (Panel.schema number).toJson s.concentrations),
      ("thresholds", (Panel.schema number).toJson s.thresholds),
      ("hydraulics", (Hydraulics.schema number).toJson s.hydraulics),
      ("indices", (Indices.schema number).toJson s.indices) ]
  ofJson? j := return {
    context := ← Context.schema.get? j "context"
    concentrations := ← (Panel.schema number).get? j "concentrations"
    thresholds := ← (Panel.schema number).get? j "thresholds"
    hydraulics := ← (Hydraulics.schema number).get? j "hydraulics"
    indices := ← (Indices.schema number).get? j "indices" }

end

def Record.schema : Schema Record where
  form := Json.Form.fields
    [ Context.schema.required "context", Schema.bool.required "conservation_ok",
      (Schema.byte.vector 2).required "reserved_flags",
      (Panel.schema Binary64.schema).required "concentrations",
      (Panel.schema Binary64.schema).required "thresholds",
      (Hydraulics.schema Binary64.schema).required "hydraulics",
      (Indices.schema Binary64.schema).required "indices",
      (Residual.schema Binary64.schema).required "residual",
      (Schema.byte.vector 16).required "reserved" ]
  toJson r := .object
    [ ("context", Context.schema.toJson r.context), ("conservation_ok", .flag r.conservationOk),
      ("reserved_flags", (Schema.byte.vector 2).toJson r.reservedFlags),
      ("concentrations", (Panel.schema Binary64.schema).toJson r.concentrations),
      ("thresholds", (Panel.schema Binary64.schema).toJson r.thresholds),
      ("hydraulics", (Hydraulics.schema Binary64.schema).toJson r.hydraulics),
      ("indices", (Indices.schema Binary64.schema).toJson r.indices),
      ("residual", (Residual.schema Binary64.schema).toJson r.residual),
      ("reserved", (Schema.byte.vector 16).toJson r.reserved) ]
  ofJson? j := return {
    context := ← Context.schema.get? j "context"
    conservationOk := ← Schema.bool.get? j "conservation_ok"
    reservedFlags := ← (Schema.byte.vector 2).get? j "reserved_flags"
    concentrations := ← (Panel.schema Binary64.schema).get? j "concentrations"
    thresholds := ← (Panel.schema Binary64.schema).get? j "thresholds"
    hydraulics := ← (Hydraulics.schema Binary64.schema).get? j "hydraulics"
    indices := ← (Indices.schema Binary64.schema).get? j "indices"
    residual := ← (Residual.schema Binary64.schema).get? j "residual"
    reserved := ← (Schema.byte.vector 16).get? j "reserved" }

end SiteSafety
