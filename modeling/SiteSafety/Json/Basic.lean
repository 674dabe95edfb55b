import SiteSafety.Decimal.Layout
import SiteSafety.Text.Encoding

namespace SiteSafety

inductive Json where
  | null
  | flag (b : Bool)
  | whole (n : Nat)
  | number (x : Float)
  | text (s : String)
  | array (items : List Json)
  | object (fields : List (String × Json))
  deriving Inhabited

namespace Json

def escapedChar (c : Char) : List Char :=
  if c = '"' then ['\\', '"']
  else if c = '\\' then ['\\', '\\']
  else if c = '\n' then ['\\', 'n']
  else if c = '\r' then ['\\', 'r']
  else if c = '\t' then ['\\', 't']
  else if c.toNat = 8 then ['\\', 'b']
  else if c.toNat = 12 then ['\\', 'f']
  else if c.toNat < 32 then
    ['\\', 'u', '0', '0', Hex.digit (c.toNat / 16), Hex.digit c.toNat]
  else [c]

def textChars (s : String) : List Char := '"' :: s.toList.flatMap escapedChar ++ ['"']

def flagChars : Bool → List Char
  | true => ['t', 'r', 'u', 'e']
  | false => ['f', 'a', 'l', 's', 'e']

def joined (separator : List Char) : List (List Char) → List Char
  | [] => []
  | [p] => p
  | p :: ps => p ++ separator ++ joined separator ps

mutual

def compactChars : Json → List Char
  | .null => ['n', 'u', 'l', 'l']
  | .flag b => flagChars b
  | .whole n => Decimal.digitsOf n
  | .number x => Decimal.documentChars x
  | .text s => textChars s
  | .array items => '[' :: joined [','] (compactItems items) ++ [']']
  | .object fields => '{' :: joined [','] (compactFields fields) ++ ['}']

def compactItems : List Json → List (List Char)
  | [] => []
  | j :: js => compactChars j :: compactItems js

def compactFields : List (String × Json) → List (List Char)
  | [] => []
  | (name, j) :: fs => (textChars name ++ ':' :: compactChars j) :: compactFields fs

end

def compact (j : Json) : String := String.ofList j.compactChars

def lineBreak (depth : Nat) : List Char := '\n' :: List.replicate (2 * depth) ' '

def block (opening closing : Char) (depth : Nat) : List (List Char) → List Char
  | [] => [opening, closing]
  | pieces =>
    opening :: lineBreak (depth + 1) ++ joined (',' :: lineBreak (depth + 1)) pieces ++
      lineBreak depth ++ [closing]

mutual

def indentedChars (depth : Nat) : Json → List Char
  | .array items => block '[' ']' depth (indentedItems (depth + 1) items)
  | .object fields => block '{' '}' depth (indentedFields (depth + 1) fields)
  | .null => compactChars .null
  | .flag b => compactChars (.flag b)
  | .whole n => compactChars (.whole n)
  | .number x => compactChars (.number x)
  | .text s => compactChars (.text s)

def indentedItems (depth : Nat) : List Json → List (List Char)
  | [] => []
  | j :: js => indentedChars depth j :: indentedItems depth js

def indentedFields (depth : Nat) : List (String × Json) → List (List Char)
  | [] => []
  | (name, j) :: fs =>
    (textChars name ++ ':' :: ' ' :: indentedChars depth j) :: indentedFields depth fs

end

def indented (j : Json) : String := String.ofList (j.indentedChars 0)

def field? (name : String) : Json → Option Json
  | .object fields => fields.lookup name
  | _ => none

end Json

end SiteSafety
