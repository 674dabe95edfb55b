import SiteSafety.Impact

namespace SiteSafety

structure Accumulated where
  mass : Float
  risk : Float
  deriving DecidableEq

namespace Accumulated

def zero : Accumulated := ⟨0, 0⟩

def isFinite (s : Accumulated) : Bool := s.mass.isFinite && s.risk.isFinite

def merge (s t : Accumulated) : Accumulated := ⟨s.mass + t.mass, s.risk + t.risk⟩

instance : Add Accumulated := ⟨merge⟩

def ofLoad (inlet outlet flow reference : Float) : Accumulated :=
  let ratio := removalRatio inlet outlet reference
  ⟨ratio * flow, ratio⟩

def ofRow (r : Measurement) : Accumulated := ofLoad r.inlet r.outlet r.flow r.reference

def step (s : Accumulated) (r : Measurement) : Accumulated := s + ofRow r

def run (s : Accumulated) (rows : List Measurement) : Accumulated := rows.foldl step s

/-- A partition length of at least the wanted one, at least one, and such that there are no more
partitions than workers. -/
def partitionLength (rows wanted workers : Nat) : Nat :=
  let share := (rows + (max workers 1 - 1)) / max workers 1
  max (max wanted share) 1

/-- Consecutive pieces of the given length, the last one perhaps shorter; `fuel` bounds their
number. -/
def pieces (fuel length : Nat) (rows : List Measurement) : List (List Measurement) :=
  match fuel, rows with
  | 0, _ => []
  | _, [] => []
  | fuel + 1, rows => rows.take length :: pieces fuel length (rows.drop length)

def partitioned (rows : List Measurement) (wanted workers : Nat) : Accumulated :=
  let length := partitionLength rows.length wanted workers
  if rows.length ≤ length then zero.run rows
  else ((pieces rows.length length rows).map zero.run).foldl merge zero

def stepCall (row : Option Measurement) (input output : Option Accumulated) :
    CallStatus × Option Accumulated :=
  match row, input, output with
  | some r, some s, some _ => (.ok, some (s.step r))
  | _, _, out => (.err, out)

def numberStepCall (node : Option BareMeasurement) (input output : Option Accumulated) :
    CallStatus × Option Accumulated :=
  match node, input, output with
  | some n, some s, some _ => (.ok, some (s + ofLoad n.inlet n.outlet n.flow n.reference))
  | _, _, out => (.err, out)

end Accumulated

end SiteSafety
