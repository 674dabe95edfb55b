import SiteSafety.Pattern.Basic

namespace SiteSafety.Pattern

def classNames : List String :=
  [ "alnum", "alpha", "ascii", "blank", "cntrl", "digit", "graph", "lower", "print", "punct",
    "space", "upper", "word", "xdigit" ]

def readNamed : List Char → Option (Atom × List Char)
  | ':' :: cs =>
    let (negated, cs) := match cs with
      | '^' :: cs => (true, cs)
      | cs => (false, cs)
    match cs.span (· != ':') with
    | (name, ':' :: ']' :: rest) =>
      if classNames.contains (String.ofList name) then some (.named negated, rest) else none
    | _ => none
  | _ => none

/-- A class that is still open: the depth of the operand before the last operation, if there is
one, and the depths of the members behind it. -/
structure OpenClass where
  operand : Option Nat
  members : List Nat

namespace OpenClass

def add (o : OpenClass) (depth : Nat) : OpenClass := { o with members := depth :: o.members }

def depth (o : OpenClass) : Nat :=
  match o.operand with
  | none => depthOf o.members
  | some d => 1 + max d (depthOf o.members)

def operate (o : OpenClass) : OpenClass := ⟨some o.depth, []⟩

end OpenClass

def readDashes (f : Flags) : Nat → OpenClass → List Char → Option (OpenClass × List Char)
  | 0, _, _ => none
  | fuel + 1, o, cs =>
    match cs with
    | '-' :: cs =>
      if f.admitsMember (.literal '-' false) then
        (f.skipTo cs).bind fun cs => readDashes f fuel (o.add 0) cs
      else none
    | cs => some (o, cs)

/-- What stands behind an opening bracket, up to the first member that is not a dash. A closing
bracket there stands for itself. -/
def openClass (f : Flags) (cs : List Char) : Option (OpenClass × List Char) := do
  let cs ← f.skipTo cs
  let cs ← match cs with
    | '^' :: cs => if f.admitsComplement then f.skipTo cs else none
    | cs => some cs
  let (o, cs) ← readDashes f (cs.length + 1) ⟨none, []⟩ cs
  match o.members, cs with
  | [], ']' :: cs =>
    if f.admitsMember (.literal ']' false) then (f.skipTo cs).map fun cs => (o.add 0, cs)
    else none
  | _, cs => some (o, cs)

def readMemberAtom (f : Flags) : List Char → Option (Atom × List Char)
  | [] => none
  | '\\' :: cs => readEscape f cs
  | c :: cs => some (.literal c false, cs)

/-- The character that decides about a dash before it. Only one comment is passed over. -/
def peek (f : Flags) (cs : List Char) : Option Char :=
  if !f.spaced then cs.head?
  else match cs.dropWhile Text.isBlank with
    | '#' :: cs => (cs.dropWhile Text.isBlank).head?
    | cs => cs.head?

def isRange (f : Flags) : Atom → Atom → Bool
  | .literal a x, .literal b y =>
    f.admitsMember (.literal a x) && f.admitsMember (.literal b y) && a ≤ b
  | _, _ => false

/-- A member or a range of characters. A dash before a dash or before a closing bracket makes no
range. -/
def readMember (f : Flags) (cs : List Char) : Option (List Char) := do
  let (a, cs) ← readMemberAtom f cs
  let cs ← f.skipTo cs
  let alone := if f.admitsMember a then some cs else none
  match cs with
  | '-' :: behind =>
    if peek f behind == some ']' || peek f behind == some '-' then alone
    else do
      let (b, rest) ← readMemberAtom f (← f.skipTo behind)
      if isRange f a b then some rest else none
  | _ => alone

/-- The members of the innermost of the open classes and of those around it. Every step takes a
character. -/
def readMembers (f : Flags) : Nat → List OpenClass → OpenClass → List Char →
    Option (Nat × List Char)
  | 0, _, _, _ => none
  | fuel + 1, outer, o, cs =>
    match f.skip cs with
    | [] => none
    | '[' :: cs =>
      match readNamed cs with
      | some (atom, rest) =>
        if f.admitsMember atom then readMembers f fuel outer (o.add 0) rest else none
      | none => (openClass f cs).bind fun r => readMembers f fuel (o :: outer) r.1 r.2
    | ']' :: cs =>
      match outer with
      | [] => some (1 + o.depth, cs)
      | p :: outer => readMembers f fuel outer (p.add (1 + o.depth)) cs
    | '&' :: '&' :: cs => readMembers f fuel outer o.operate cs
    | '-' :: '-' :: cs => readMembers f fuel outer o.operate cs
    | '~' :: '~' :: cs => readMembers f fuel outer o.operate cs
    | cs => (readMember f cs).bind fun cs => readMembers f fuel outer (o.add 0) cs

def readBrackets (f : Flags) (cs : List Char) : Option (Nat × List Char) :=
  (openClass f cs).bind fun r => readMembers f (r.2.length + 1) [] r.1 r.2

end SiteSafety.Pattern
