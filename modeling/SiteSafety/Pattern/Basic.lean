import SiteSafety.Text.Characters
import SiteSafety.Text.Encoding

namespace SiteSafety.Pattern

structure Flags where
  ignoreCase : Bool
  unicode : Bool
  spaced : Bool
  deriving DecidableEq

def Flags.standard : Flags := ⟨false, true, false⟩

inductive Atom where
  /-- A character; `byte` if it is written as two digits behind an `x`. -/
  | literal (c : Char) (byte : Bool)
  | shorthand (negated : Bool)
  | named (negated : Bool)
  | anyCharacter
  | edge
  | wordEdge
  deriving DecidableEq

def isAscii (c : Char) : Bool := c.toNat < 0x80

namespace Flags

/-- What may stand in a pattern. What needs the tables of a script's letters is refused, unless the
pattern is one of bytes, where it has its ASCII meaning. -/
def admits (f : Flags) : Atom → Bool
  | .literal c byte => if f.unicode then !f.ignoreCase else !byte || isAscii c
  | .shorthand negated => !f.unicode && !negated
  | .named negated => if f.unicode then !f.ignoreCase else !negated
  | .anyCharacter => f.unicode
  | .edge => true
  | .wordEdge => !f.unicode

def admitsMember (f : Flags) : Atom → Bool
  | .literal c _ => if f.unicode then !f.ignoreCase else isAscii c
  | .shorthand negated => f.admits (.shorthand negated)
  | .named negated => f.admits (.named negated)
  | .anyCharacter => false
  | .edge => false
  | .wordEdge => false

def admitsComplement (f : Flags) : Bool := f.unicode

end Flags

/-- The text behind blanks and comments; a comment runs from a number sign to the end of the
line. -/
def skipComments (inComment : Bool) : List Char → List Char
  | [] => []
  | c :: cs =>
    if inComment then skipComments (c != '\n') cs
    else if Text.isBlank c then skipComments false cs
    else if c = '#' then skipComments true cs
    else c :: cs

def Flags.skip (f : Flags) (cs : List Char) : List Char :=
  if f.spaced then skipComments false cs else cs

def Flags.skipTo (f : Flags) (cs : List Char) : Option (List Char) :=
  match f.skip cs with
  | [] => none
  | cs => some cs

def depthOf : List Nat → Nat
  | [] => 0
  | [d] => d
  | ds => 1 + ds.foldl max 0

def maxDepth : Nat := 250

def readHex (f : Flags) : Nat → List Char → Option (List Char × List Char)
  | 0, cs => some ([], cs)
  | n + 1, cs =>
    match f.skip cs with
    | [] => none
    | c :: cs => (readHex f n cs).map fun r => (c :: r.1, r.2)

def readCodePoint (f : Flags) (digits : Nat) (cs : List Char) : Option (Atom × List Char) := do
  let (ds, rest) ← readHex f digits cs
  let n ← Hex.nat? ds
  if n.isValidChar then some (.literal (Char.ofNat n) (digits == 2), f.skip rest) else none

/-- ASCII characters other than letters and digits stand for themselves behind a backslash; angle
brackets do not. -/
def escapesItself (c : Char) : Bool := isAscii c && !c.isAlphanum && c != '<' && c != '>'

def readEscape (f : Flags) : List Char → Option (Atom × List Char)
  | [] => none
  | c :: cs =>
    match c with
    | 'x' => readCodePoint f 2 cs
    | 'u' => readCodePoint f 4 cs
    | 'U' => readCodePoint f 8 cs
    | 'd' | 's' | 'w' => some (.shorthand false, cs)
    | 'D' | 'S' | 'W' => some (.shorthand true, cs)
    | 'a' => some (.literal (Char.ofNat 7) false, cs)
    | 'f' => some (.literal (Char.ofNat 12) false, cs)
    | 't' => some (.literal '\t' false, cs)
    | 'n' => some (.literal '\n' false, cs)
    | 'r' => some (.literal '\r' false, cs)
    | 'v' => some (.literal (Char.ofNat 11) false, cs)
    | 'A' | 'z' => some (.edge, cs)
    | 'b' | 'B' | '<' | '>' => some (.wordEdge, cs)
    | c => if escapesItself c then some (.literal c false, cs) else none

end SiteSafety.Pattern
