namespace SiteSafety.Text

def firstChar? (bytes : List UInt8) : Option Char :=
  (bytes.take 4).toByteArray.utf8DecodeChar? 0

/-- The characters of the bytes, or the index at which the first byte stands that begins no
character; `start` is the index of the first byte. -/
def charsFrom (start : Nat) (bytes : List UInt8) : Except Nat (List Char) :=
  match bytes with
  | [] => .ok []
  | b :: rest =>
    match firstChar? (b :: rest) with
    | none => .error start
    | some c => (charsFrom (start + c.utf8Size) ((b :: rest).drop c.utf8Size)).map (c :: ·)
termination_by bytes.length
decreasing_by
  have := c.utf8Size_pos
  simp only [List.length_drop, List.length_cons]
  omega

def decode (bytes : List UInt8) : Except Nat String := (charsFrom 0 bytes).map String.ofList

def encode (s : String) : List UInt8 := s.toByteArray.toList

end SiteSafety.Text

namespace SiteSafety.Hex

def digit (n : Nat) : Char := Nat.digitChar (n % 16)

def byteChars (b : UInt8) : List Char := [digit (b.toNat / 16), digit b.toNat]

def encode (bytes : List UInt8) : String := String.ofList (bytes.flatMap byteChars)

def value? (c : Char) : Option Nat :=
  if c.isDigit then some (c.toNat - '0'.toNat)
  else if 'a' ≤ c ∧ c ≤ 'f' then some (c.toNat - 'a'.toNat + 10)
  else if 'A' ≤ c ∧ c ≤ 'F' then some (c.toNat - 'A'.toNat + 10)
  else none

def nat? (cs : List Char) : Option Nat :=
  cs.foldlM (fun n c => (value? c).map fun d => 16 * n + d) 0

def bytes? : List Char → Option (List UInt8)
  | [] => some []
  | [_] => none
  | a :: b :: rest => do return (← nat? [a, b]).toUInt8 :: (← bytes? rest)

def decode? (s : String) : Option (List UInt8) := bytes? s.toList

end SiteSafety.Hex
