import SiteSafety.Decimal.Numeral
import SiteSafety.Json.Basic

namespace SiteSafety.Json

inductive Refusal where
  | mismatch
  | malformed
  | truncated
  deriving DecidableEq, Inhabited

abbrev Reader (α : Type) := List Char → Except Refusal (α × List Char)

def isBlank (c : Char) : Bool := c == ' ' || c == '\n' || c == '\t' || c == '\r'

def skipBlanks (cs : List Char) : List Char := cs.dropWhile isBlank

def literal : List Char → List Char → Except Refusal (List Char)
  | [], cs => .ok cs
  | _ :: _, [] => .error .truncated
  | w :: ws, c :: cs => if c = w then literal ws cs else .error .malformed

inductive Numeral where
  | whole (n : Nat)
  | real (x : Float)
  deriving DecidableEq

def Numeral.toFloat : Numeral → Float
  | .whole n => Decimal.toFloat ⟨n, 0⟩
  | .real x => x

def readDigits : Reader (List Char) := fun cs =>
  match Decimal.takeDigits cs with
  | ([], []) => .error .truncated
  | ([], _) => .error .malformed
  | (ds, rest) => .ok (ds, rest)

def readWhole : Reader (List Char) := fun cs =>
  match cs with
  | '0' :: rest =>
    match rest with
    | [] => .ok (['0'], [])
    | c :: rest => if c.isDigit then .error .malformed else .ok (['0'], c :: rest)
  | cs => readDigits cs

def readFraction : Reader (Option (List Char)) := fun cs =>
  match cs with
  | '.' :: rest => (readDigits rest).map fun r => (some r.1, r.2)
  | cs => .ok (none, cs)

def readExponent : Reader (Option Int) := fun cs =>
  match cs with
  | [] => .ok (none, [])
  | c :: rest =>
    if c = 'e' ∨ c = 'E' then
      let (negative, rest) := Decimal.takeSign rest
      (readDigits rest).map fun r =>
        (some (if negative then -(Decimal.ofDigits r.1 : Int) else Decimal.ofDigits r.1), r.2)
    else .ok (none, c :: rest)

/-- A numeral after its sign. Its value must not exceed the range of floats. Digits without sign,
point and exponent are a whole number if a word of 64 bits holds it. -/
def readNumeral (negative : Bool) : Reader Numeral := fun cs => do
  let (digits, cs) ← readWhole cs
  let (fraction, cs) ← readFraction cs
  let (exponent, cs) ← readExponent cs
  let d := Decimal.clipped digits (fraction.getD [])
  let x := Decimal.approximation ⟨d.significand, d.exponent + exponent.getD 0⟩
  if x.isInf then .error .malformed
  else if negative then .ok (.real (-x), cs)
  else if fraction.isNone && exponent.isNone && d.exponent == 0 then
    .ok (.whole d.significand, cs)
  else .ok (.real x, cs)

/-- Four hexadecimal digits; a text is truncated when it has less than four bytes left. -/
def hex4 (cs : List Char) : Except Refusal Nat :=
  let four := cs.take 4
  if four.foldl (fun n c => n + c.utf8Size) 0 < 4 then .error .truncated
  else match Hex.nat? four with
    | some n => .ok n
    | none => .error .malformed

def isLowSurrogate (n : Nat) : Bool := 0xdc00 ≤ n && n ≤ 0xdfff

def isHighSurrogate (n : Nat) : Bool := 0xd800 ≤ n && n ≤ 0xdbff

def surrogatePair (high low : Nat) : Char :=
  Char.ofNat (0x10000 + (high - 0xd800) * 0x400 + (low - 0xdc00))

def codePoint (cs : List Char) : Except Refusal (Char × Nat) := do
  let n ← hex4 cs
  if isLowSurrogate n then .error .malformed
  else if !isHighSurrogate n then .ok (Char.ofNat n, 4)
  else
    match cs.drop 4 with
    | [] => .error .truncated
    | ['\\'] => .error .truncated
    | '\\' :: 'u' :: rest =>
      let m ← hex4 rest
      if isLowSurrogate m then .ok (surrogatePair n m, 10) else .error .malformed
    | _ => .error .malformed

def simpleEscape? : Char → Option Char
  | '"' => some '"'
  | '\\' => some '\\'
  | '/' => some '/'
  | 'b' => some (Char.ofNat 8)
  | 'f' => some (Char.ofNat 12)
  | 'n' => some '\n'
  | 'r' => some '\r'
  | 't' => some '\t'
  | _ => none

/-- The character that an escape stands for, and how many characters behind the backslash it
takes. -/
def unescape : List Char → Except Refusal (Char × Nat)
  | [] => .error .truncated
  | 'u' :: cs => (codePoint cs).map fun r => (r.1, r.2 + 1)
  | c :: _ =>
    match simpleEscape? c with
    | some d => .ok (d, 1)
    | none => .error .malformed

def readChars (cs : List Char) : Except Refusal (List Char × List Char) :=
  match cs with
  | [] => .error .truncated
  | c :: rest =>
    if c = '"' then .ok ([], rest)
    else if c = '\\' then
      match unescape rest with
      | .error e => .error e
      | .ok (d, n) => (readChars (rest.drop n)).map fun r => (d :: r.1, r.2)
    else if c.toNat < 32 then .error .malformed
    else (readChars rest).map fun r => (c :: r.1, r.2)
termination_by cs.length
decreasing_by
  · simp only [List.length_drop, List.length_cons]; omega
  · simp

def readText : Reader String := fun cs => (readChars cs).map fun r => (String.ofList r.1, r.2)

end SiteSafety.Json
