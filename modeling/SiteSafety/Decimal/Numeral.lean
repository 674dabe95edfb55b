namespace SiteSafety

structure Decimal where
  significand : Nat
  exponent : Int
  deriving DecidableEq

namespace Decimal

/-- The nearest float, ties to even, infinite beyond the range. -/
def toFloat (d : Decimal) : Float :=
  match d.exponent with
  | .ofNat e => Float.ofScientific d.significand false e
  | .negSucc e => Float.ofScientific d.significand true (e + 1)

def digitsOf (n : Nat) : List Char := Nat.toDigits 10 n

def digitValue (c : Char) : Nat := c.toNat - '0'.toNat

def ofDigits (cs : List Char) : Nat := cs.foldl (fun n c => 10 * n + digitValue c) 0

def takeDigits (cs : List Char) : List Char × List Char := cs.span Char.isDigit

def takeSign : List Char → Bool × List Char
  | '-' :: cs => (true, cs)
  | '+' :: cs => (false, cs)
  | cs => (false, cs)

def exponent? (cs : List Char) : Option Int :=
  match takeSign cs with
  | (negative, ds) =>
    if ds.isEmpty || !ds.all Char.isDigit then none
    else some (if negative then -(ofDigits ds : Int) else ofDigits ds)

def decimal? (cs : List Char) : Option Decimal :=
  let (whole, rest) := takeDigits cs
  let (fraction, rest) := match rest with
    | '.' :: rest => takeDigits rest
    | rest => ([], rest)
  if whole.isEmpty && fraction.isEmpty then none
  else
    let significand := ofDigits (whole ++ fraction)
    match rest with
    | [] => some ⟨significand, -fraction.length⟩
    | c :: rest =>
      if c = 'e' ∨ c = 'E' then
        (exponent? rest).map fun e => ⟨significand, e - fraction.length⟩
      else none

def infinity : Float := Float.ofBits 0x7ff0000000000000

def notANumber : Float := Float.ofBits 0x7ff8000000000000

def magnitude? (cs : List Char) : Option Float :=
  match cs.map Char.toLower with
  | ['i', 'n', 'f'] => some infinity
  | ['i', 'n', 'f', 'i', 'n', 'i', 't', 'y'] => some infinity
  | ['n', 'a', 'n'] => some notANumber
  | _ => (decimal? cs).map toFloat

def numeral? (cs : List Char) : Option Float :=
  match takeSign cs with
  | (negative, rest) => (magnitude? rest).map fun x => if negative then -x else x

def append (n : Nat) : List Char → Nat × Nat
  | [] => (n, 0)
  | d :: ds =>
    let m := 10 * n + digitValue d
    if m < 2 ^ 64 then
      let (m, count) := append m ds
      (m, count + 1)
    else (n, 0)

/-- The digits before and after the point, cut to a word. A digit left out before the point counts
in the exponent, and the digits after the point may still find room. -/
def clipped (digits places : List Char) : Decimal :=
  let (n, whole) := append 0 digits
  let (n, fraction) := append n places
  ⟨n, (digits.length : Int) - whole - fraction⟩

def maxPower : Nat := 308

def powerOfTen (k : Nat) : Float := toFloat ⟨1, k⟩

def scaleUp (x : Float) (k : Nat) : Float :=
  if k ≤ maxPower then x * powerOfTen k
  else if x == 0 then x
  else powerOfTen (maxPower + 1)

/-- Divides by the largest power as long as the exponent exceeds it and something is left. -/
def scaleDown (x : Float) (k : Nat) : Float :=
  if k ≤ maxPower then x / powerOfTen k
  else if x == 0 then x
  else scaleDown (x / powerOfTen maxPower) (k - maxPower)
termination_by k
decreasing_by simp only [maxPower] at *; omega

/-- Scales the leading digits that fit a word by one power of ten. Each step rounds, so the result may
lie next to the nearest float. -/
def approximation (d : Decimal) : Float :=
  match d.exponent with
  | .ofNat k => scaleUp (toFloat ⟨d.significand, 0⟩) k
  | .negSucc k => scaleDown (toFloat ⟨d.significand, 0⟩) (k + 1)

end Decimal

end SiteSafety
