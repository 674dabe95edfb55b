import SiteSafety.Decimal.Shortest

namespace SiteSafety.Decimal

/-- The digits without trailing zeros and the place of the point among them: the value is
`0.d₁d₂… * 10 ^ point`. -/
structure Scaled where
  digits : List Char
  point : Int

def scaled (d : Decimal) : Scaled :=
  let ds := digitsOf d.significand
  let point := ds.length + d.exponent
  ⟨(ds.reverse.dropWhile (· == '0')).reverse, point⟩

def zeros (n : Nat) : List Char := List.replicate n '0'

def split (s : Scaled) : List Char × List Char :=
  if s.point ≤ 0 then (['0'], zeros (-s.point).toNat ++ s.digits)
  else
    let n := s.point.toNat
    (s.digits.take n ++ zeros (n - s.digits.length), s.digits.drop n)

def positional (s : Scaled) : List Char :=
  match split s with
  | (whole, []) => whole
  | (whole, fraction) => whole ++ '.' :: fraction

/-- Positional form in which a whole number keeps a zero after its point. -/
def pointed (s : Scaled) : List Char :=
  match split s with
  | (whole, []) => whole ++ ['.', '0']
  | (whole, fraction) => whole ++ '.' :: fraction

def signed (n : Int) : List Char :=
  if n < 0 then '-' :: digitsOf n.natAbs else '+' :: digitsOf n.natAbs

def exponential (s : Scaled) : List Char :=
  let mantissa := match s.digits with
    | [] => ['0']
    | [d] => [d]
    | d :: ds => d :: '.' :: ds
  mantissa ++ 'e' :: signed (s.point - 1)

def isNegative (x : Float) : Bool := x.toBits >>> 63 == 1

def withSign (x : Float) (body : List Char) : List Char :=
  if isNegative x then '-' :: body else body

/-- A float in running text; an exact tie between two shortest decimals goes up. -/
def plainChars (x : Float) : List Char :=
  if x.isNaN then ['N', 'a', 'N']
  else withSign x <|
    if x.isInf then ['i', 'n', 'f']
    else if x == 0 then ['0']
    else positional (scaled (shortest .up x.abs))

def plain (x : Float) : String := String.ofList (plainChars x)

def leastPositional : Int := -5

def firstExponential : Int := 16

/-- A finite float in a document; an exact tie between two shortest decimals goes to the even. -/
def documentChars (x : Float) : List Char :=
  if !x.isFinite then ['n', 'u', 'l', 'l']
  else withSign x <|
    if x == 0 then ['0', '.', '0']
    else
      let s := scaled (shortest .even x.abs)
      if leastPositional ≤ s.point - 1 ∧ s.point - 1 < firstExponential then pointed s
      else exponential s

end SiteSafety.Decimal
