import SiteSafety.Certification
import SiteSafety.Schema.Quantities
import SiteSafety.Schema.Verdicts
import SiteSafety.Text.Encoding

namespace SiteSafety

structure Stamp where
  date : String
  instant : String
  deriving DecidableEq

structure Report where
  stamp : Stamp
  siteId : String
  windowSeconds : Float
  rowsLoaded : Nat
  rowsSkipped : Nat
  impacts : List Impact
  finalState : Accumulated
  potential : Float
  conservation : ConservationVerdict
  conservationReason : String
  stability : StabilityVerdict
  stabilityReason : String
  certified : Bool
  recordHex : String
  deriving DecidableEq

namespace Report

def ofCertification (stamp : Stamp) (siteId : String) (windowSeconds : Float) (rowsSkipped : Nat)
    (c : Certification) : Report :=
  { stamp := stamp
    siteId := siteId
    windowSeconds := windowSeconds
    rowsLoaded := c.impacts.length
    rowsSkipped := rowsSkipped
    impacts := c.impacts
    finalState := c.state
    potential := c.potential
    conservation := c.conservation
    conservationReason := c.conservation.reason
    stability := c.stability
    stabilityReason := c.stability.reason
    certified := c.accepted
    recordHex := Hex.encode c.encoded }

def toJson (r : Report) : Json := .object
  [ ("date", .text r.stamp.date), ("generated_at", .text r.stamp.instant),
    ("site_id", .text r.siteId), ("window_seconds", .number r.windowSeconds),
    ("rows_loaded", .whole r.rowsLoaded), ("rows_skipped", .whole r.rowsSkipped),
    ("impacts", .array (r.impacts.map Impact.schema.toJson)),
    ("final_state", Accumulated.schema.toJson r.finalState), ("potential", .number r.potential),
    ("conservation", ConservationVerdict.schema.toJson r.conservation),
    ("conservation_reason", .text r.conservationReason),
    ("stability", StabilityVerdict.schema.toJson r.stability),
    ("stability_reason", .text r.stabilityReason), ("certified", .flag r.certified),
    ("record_hex", .text r.recordHex) ]

def text (r : Report) : String := r.toJson.indented

end Report

end SiteSafety
