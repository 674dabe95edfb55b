import SiteSafety.Decimal.Numeral

namespace SiteSafety.Decimal

inductive Tie where
  | up
  | even
  deriving DecidableEq

structure Quotient where
  num : Nat
  den : Nat

def magnitude (x : Float) : Quotient :=
  let biased := (x.toBits >>> 52).toNat % 2048
  let fraction := x.toBits.toNat % Nat.pow 2 52
  let m := if biased = 0 then fraction else Nat.pow 2 52 + fraction
  let e := max biased 1
  if 1075 ≤ e then ⟨m * Nat.pow 2 (e - 1075), 1⟩ else ⟨m, Nat.pow 2 (1075 - e)⟩

def digitCount (n : Nat) : Nat := (digitsOf n).length

/-- The `k` with `10 ^ (k - 1) ≤ q < 10 ^ k`. -/
def decade (q : Quotient) : Int :=
  if q.den ≤ q.num then digitCount (q.num / q.den)
  else 1 - (digitCount ((q.den - 1) / q.num) : Int)

def neighbours (tie : Tie) (q : Quotient) (e : Int) : List Nat :=
  let num := q.num * Nat.pow 10 (-e).toNat
  let den := q.den * Nat.pow 10 e.toNat
  let below := num / den
  let twice := 2 * (num % den)
  if twice = 0 then [below]
  else if twice < den then [below, below + 1]
  else if den < twice then [below + 1, below]
  else match tie with
    | .up => [below + 1, below]
    | .even => if below % 2 = 0 then [below, below + 1] else [below + 1, below]

def readsBack (x : Float) (d : Decimal) : Bool := d.toFloat == x

/-- The preferred decimal on the grid of `10 ^ e` that reads back. -/
def onGrid? (tie : Tie) (x : Float) (e : Int) : Option Decimal :=
  ((neighbours tie (magnitude x) e).map (Decimal.mk · e)).find? (readsBack x)

def exact (q : Quotient) : Decimal := ⟨q.num * Nat.pow 5 q.den.log2, -q.den.log2⟩

/-- The decimal of fewest digits that reads back, and among those the nearest. Candidates are tried by
reading them. -/
def shortest (tie : Tie) (x : Float) : Decimal :=
  let k := decade (magnitude x)
  ((List.range 17).findSome? fun n => onGrid? tie x (k - (n + 1 : Nat))).getD (exact (magnitude x))

end SiteSafety.Decimal
