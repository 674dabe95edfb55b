import SiteSafety.Decimal.Numeral
import SiteSafety.Event
import SiteSafety.Pattern.Reader
import SiteSafety.Text.Characters

namespace SiteSafety

structure LogDirective where
  target : Option (List Char)
  field : Option (List Char)
  inSpan : Bool
  level : LogLevel
  deriving DecidableEq

namespace LogLevel

def number? (cs : List Char) : Option Nat :=
  let digits := match cs with
    | '+' :: cs => cs
    | cs => cs
  if digits.isEmpty || !digits.all Char.isDigit then none
  else some (digits.foldl (fun n c => 10 * n + (c.toNat - '0'.toNat)) 0)

def ofText? (cs : List Char) : Option LogLevel :=
  match number? cs with
  | some n => all.find? fun l => l.rank == n
  | none => all.find? fun l => l.name.toList == cs.map Char.toUpper

end LogLevel

namespace LogDirective

/-- No level written admits everything. -/
def level? (cs : List Char) : Option LogLevel :=
  if cs.isEmpty then some .trace else LogLevel.ofText? cs

def byteLength (cs : List Char) : Nat := cs.foldl (fun n c => n + c.utf8Size) 0

def splitAt? : Nat → List Char → Option (List Char × List Char)
  | 0, cs => some ([], cs)
  | _ + 1, [] => none
  | n + 1, c :: cs =>
    if c.utf8Size ≤ n + 1 then
      (splitAt? (n + 1 - c.utf8Size) cs).map fun r => (c :: r.1, r.2)
    else none

def from? (whole : List Char) (start : Nat) : Option (List Char) := (splitAt? start whole).map (·.2)

def cut? (whole : List Char) (start stop : Nat) : Option (List Char) := do
  let cs ← from? whole start
  return (← splitAt? (stop - start) cs).1

def parseLevel (whole cs : List Char) (pos : Nat) (d : LogDirective) : Option LogDirective :=
  match cs with
  | [] => some d
  | '=' :: _ => do
    let level ← level? (← from? whole (pos + 1))
    return { d with level := level }
  | _ => none

def isValue (cs : List Char) : Bool := (Decimal.numeral? cs).isSome || Pattern.isPattern cs

/-- A field, perhaps with a value, which only what happens inside of a span can have. What follows a
second equals sign does not count. -/
def withField (d : LogDirective) (written : List Char) : Option LogDirective :=
  match written.dropWhile (· != '=') with
  | [] => some { d with field := some written }
  | _ :: value =>
    if isValue (value.takeWhile (· != '=')) then some { d with inSpan := true } else none

def parseField (whole cs : List Char) (pos : Nat) (d : LogDirective) : Option LogDirective :=
  match cs.span (· != '}') with
  | ([], _) => none
  | (inside, '}' :: ']' :: rest) => do
    let stop := pos + byteLength inside
    parseLevel whole rest (stop + 2) (← withField d (← cut? whole pos stop))
  | _ => none

def parseSpan (whole cs : List Char) (pos : Nat) (d : LogDirective) : Option LogDirective :=
  match cs.span fun c => c != ']' && c != '{' with
  | (inside, ']' :: rest) =>
    parseLevel whole rest (pos + byteLength inside + 1) { d with inSpan := true }
  | (inside, _ :: rest) =>
    parseField whole rest (pos + byteLength inside + 1) { d with inSpan := !inside.isEmpty }
  | (_, []) => none

def startsTarget (c : Char) : Bool := c == '-' || c == ':' || c == '_' || Text.isAlphanumeric c

/-- A text without span and level is a level if it names one, and else a target. -/
def parseWord (whole : List Char) : LogDirective :=
  match LogLevel.ofText? whole with
  | some level => ⟨none, none, false, level⟩
  | none => ⟨some whole, none, false, .trace⟩

def parseTarget (whole cs : List Char) : Option LogDirective := do
  let (inside, rest) := cs.span fun c => c != '=' && c != '['
  let stop := byteLength inside
  match rest with
  | [] => return parseWord whole
  | '[' :: rest => parseSpan whole rest (stop + 1) ⟨← cut? whole 0 stop, none, false, .trace⟩
  | rest => parseLevel whole rest stop ⟨← cut? whole 0 stop, none, false, .trace⟩

def parse? (whole : List Char) : Option LogDirective :=
  match Text.trim whole with
  | [] => none
  | '[' :: rest => parseSpan whole rest 1 ⟨none, none, false, .trace⟩
  | c :: rest => if startsTarget c then parseTarget whole (c :: rest) else none

def concerns (d : LogDirective) (e : Event) : Bool :=
  !d.inSpan &&
  (match d.target with
    | none => true
    | some t => t.isPrefixOf e.target.toList) &&
  (match d.field with
    | none => true
    | some f => e.fields.any fun p => p.1.toList == f)

/-- A longer target is more specific, then a field, then the later one of two fields in the
alphabet. -/
def specificity (d : LogDirective) : Nat × Nat × List Char :=
  ((d.target.map fun t => t.length + 1).getD 0, if d.field.isSome then 1 else 0, d.field.getD [])

def atMostAsSpecific (a b : LogDirective) : Bool :=
  let (targetA, fieldsA, fieldA) := a.specificity
  let (targetB, fieldsB, fieldB) := b.specificity
  targetA < targetB ||
    (targetA == targetB && (fieldsA < fieldsB || (fieldsA == fieldsB && !decide (fieldB < fieldA))))

end LogDirective

abbrev LogFilter := List LogDirective

namespace LogFilter

def standard : LogFilter := [⟨none, none, false, .info⟩]

/-- The directives between the commas. One that cannot be read leaves the standard filter. -/
def ofText (s : String) : LogFilter :=
  let written := (s.splitOn ",").filter fun d => !d.isEmpty
  (written.mapM fun d => LogDirective.parse? d.toList).getD standard

/-- The most specific directive that concerns an event, the last one of equals. -/
def deciding? (f : LogFilter) (e : Event) : Option LogDirective :=
  (f.filter (·.concerns e)).foldl (fun best d =>
    match best with
    | none => some d
    | some b => if b.atMostAsSpecific d then some d else best) none

def admits (f : LogFilter) (e : Event) : Bool :=
  match f.deciding? e with
  | none => false
  | some d => e.level.rank ≤ d.level.rank

def logged (f : LogFilter) (events : List Event) : List Event := events.filter f.admits

end LogFilter

end SiteSafety
