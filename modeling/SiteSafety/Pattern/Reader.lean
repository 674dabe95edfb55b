import SiteSafety.Pattern.Brackets
import SiteSafety.Text.Characters

namespace SiteSafety.Pattern

/-- What has been read of a group: the depths of its finished branches and of the parts of its last
one, the latest first. A part that only sets flags has no depth and cannot be repeated. -/
structure Body where
  branches : List Nat
  parts : List (Option Nat)

namespace Body

def empty : Body := ⟨[], []⟩

def add (b : Body) (part : Option Nat) : Body := { b with parts := part :: b.parts }

def branchDepth (b : Body) : Nat := depthOf (b.parts.map (·.getD 0))

def branch (b : Body) : Body := ⟨b.branchDepth :: b.branches, []⟩

def depth (b : Body) : Nat := depthOf (b.branchDepth :: b.branches)

def repeated? (b : Body) : Option Body :=
  match b.parts with
  | some d :: parts => some { b with parts := some (d + 1) :: parts }
  | _ => none

end Body

inductive Opening where
  | group (name : Option (List Char)) (flags : Flags)
  | flags (flags : Flags)

def isName : List Char → Bool
  | [] => false
  | c :: cs => (c == '_' || Text.isLetter c) &&
    cs.all fun c => ['_', '.', '[', ']'].contains c || Text.isAlphanumeric c

def readName (f : Flags) (cs : List Char) : Option (Opening × List Char) :=
  match cs.span (· != '>') with
  | (name, '>' :: rest) => if isName name then some (.group (some name) f, rest) else none
  | _ => none

def flagLetters : List Char := ['i', 'm', 's', 'U', 'u', 'R', 'x', '-']

def Flags.change (f : Flags) (letters : List Char) : Flags :=
  let (set, cleared) := letters.span (· != '-')
  let flag (letter : Char) (old : Bool) := set.contains letter || (old && !cleared.contains letter)
  ⟨flag 'i' f.ignoreCase, flag 'u' f.unicode, flag 'x' f.spaced⟩

def areFlags (letters : List Char) : Bool :=
  letters.all flagLetters.contains && decide letters.Nodup && letters.getLast? != some '-'

def readFlags (f : Flags) (cs : List Char) : Option (Opening × List Char) :=
  let (letters, rest) := cs.span fun c => c != ':' && c != ')'
  if !areFlags letters then none
  else match rest with
    | ':' :: rest => some (.group none (f.change letters), rest)
    | ')' :: rest => if letters.isEmpty then none else some (.flags (f.change letters), rest)
    | _ => none

def readOpening (f : Flags) (cs : List Char) : Option (Opening × List Char) :=
  match f.skip cs with
  | '?' :: '=' :: _ => none
  | '?' :: '!' :: _ => none
  | '?' :: '<' :: '=' :: _ => none
  | '?' :: '<' :: '!' :: _ => none
  | '?' :: 'P' :: '<' :: rest => readName f rest
  | '?' :: '<' :: rest => readName f rest
  | '?' :: rest => readFlags f rest
  | rest => some (.group none f, rest)

def readAtom (f : Flags) (c : Char) (cs : List Char) : Option (Atom × List Char) :=
  match c with
  | '\\' => readEscape f cs
  | '.' => some (.anyCharacter, cs)
  | '^' => some (.edge, cs)
  | '$' => some (.edge, cs)
  | c => some (.literal c false, cs)

def skipShort : List Char → List Char
  | '?' :: cs => cs
  | cs => cs

/-- Whether the rest of a text completes the open groups, each with the flags to return to, given
the names that are taken. Every step takes a character. A counted repetition is refused: its closing
brace cannot stand in the text. -/
def completes : Nat → Flags → List (List Char) → List (Flags × Body) → Body → List Char → Bool
  | 0, _, _, _, _, _ => false
  | fuel + 1, f, names, outer, b, cs =>
    match f.skip cs with
    | [] => outer.isEmpty && b.depth ≤ maxDepth
    | '(' :: cs =>
      match readOpening f cs with
      | none => false
      | some (.flags g, rest) => completes fuel g names outer (b.add none) rest
      | some (.group none g, rest) => completes fuel g names ((f, b) :: outer) .empty rest
      | some (.group (some name) g, rest) =>
        !names.contains name && completes fuel g (name :: names) ((f, b) :: outer) .empty rest
    | ')' :: cs =>
      match outer with
      | [] => false
      | (g, p) :: outer => completes fuel g names outer (p.add (some (1 + b.depth))) cs
    | '|' :: cs => completes fuel f names outer b.branch cs
    | '[' :: cs =>
      match readBrackets f cs with
      | none => false
      | some (depth, rest) => completes fuel f names outer (b.add (some depth)) rest
    | '{' :: _ => false
    | c :: cs =>
      if c = '?' ∨ c = '*' ∨ c = '+' then
        match b.repeated? with
        | none => false
        | some b => completes fuel f names outer b (skipShort cs)
      else
        match readAtom f c cs with
        | none => false
        | some (atom, rest) => f.admits atom && completes fuel f names outer (b.add (some 0)) rest

def isPattern (cs : List Char) : Bool := completes (cs.length + 1) .standard [] [] .empty cs

end SiteSafety.Pattern
