import SiteSafety.Text.Encoding

namespace SiteSafety.Csv

/-- Where a reader stands: how many records, line feeds plus one, and bytes it has passed. -/
structure Position where
  record : Nat
  line : Nat
  byte : Nat
  deriving DecidableEq

/-- A record before its fields are read as text. Its position is where the reader stood when it
began the record: behind the end of the one before, ahead of any empty lines. -/
structure RawRecord where
  position : Position
  fields : List (List UInt8)
  deriving DecidableEq

inductive Mode where
  | between
  | opening
  | unquoted
  | quoted
  | closing
  deriving DecidableEq

/-- A reader part way through; what it has collected stands in reverse. -/
structure Scanner where
  mode : Mode
  began : Position
  here : Position
  done : List RawRecord
  fields : List (List UInt8)
  field : List UInt8

def comma : UInt8 := 44

def quote : UInt8 := 34

def lineFeed : UInt8 := 10

def carriageReturn : UInt8 := 13

def isLineEnd (b : UInt8) : Bool := b == lineFeed || b == carriageReturn

def Position.pass (p : Position) (b : UInt8) : Position :=
  { p with line := if b = lineFeed then p.line + 1 else p.line, byte := p.byte + 1 }

namespace Scanner

def push (s : Scanner) (mode : Mode) (b : UInt8) : Scanner :=
  { s with mode := mode, field := b :: s.field }

def endField (s : Scanner) : Scanner :=
  { s with mode := .opening, fields := s.field.reverse :: s.fields, field := [] }

def endRecord (s : Scanner) : Scanner :=
  let next := { s.here with record := s.here.record + 1 }
  { mode := .between
    began := next
    here := next
    done := ⟨s.began, (s.field.reverse :: s.fields).reverse⟩ :: s.done
    fields := []
    field := [] }

def delimit (s : Scanner) (b : UInt8) : Scanner :=
  if b = comma then s.endField
  else if isLineEnd b then s.endRecord
  else s.push .unquoted b

def openField (s : Scanner) (b : UInt8) : Scanner :=
  if b = quote then { s with mode := .quoted } else s.delimit b

def feed (s : Scanner) (b : UInt8) : Scanner :=
  let s := { s with here := s.here.pass b }
  match s.mode with
  | .between => if isLineEnd b then s else s.openField b
  | .opening => s.openField b
  | .unquoted => s.delimit b
  | .quoted => if b = quote then { s with mode := .closing } else s.push .quoted b
  | .closing => if b = quote then s.push .quoted b else s.delimit b

def finish (s : Scanner) : List RawRecord :=
  match s.mode with
  | .between => s.done.reverse
  | _ => s.endRecord.done.reverse

end Scanner

def byteOrderMark : List UInt8 := [0xef, 0xbb, 0xbf]

def start (byte : Nat) : Scanner :=
  { mode := .between, began := ⟨0, 1, 0⟩, here := ⟨0, 1, byte⟩, done := [], fields := [],
    field := [] }

def records (bytes : List UInt8) : List RawRecord :=
  if byteOrderMark.isPrefixOf bytes then
    ((bytes.drop 3).foldl Scanner.feed (start 3)).finish
  else (bytes.foldl Scanner.feed (start 0)).finish

/-- A field that is not UTF-8: its number in the record, and the index in it of the first byte that
begins no character. -/
structure InvalidText where
  position : Position
  field : Nat
  index : Nat
  deriving DecidableEq

namespace InvalidText

def reason (e : InvalidText) : String :=
  "invalid utf-8: invalid UTF-8 in field " ++ toString e.field ++ " near byte index " ++
    toString e.index

def message (e : InvalidText) : String :=
  "CSV parse error: record " ++ toString e.position.record ++ " (line " ++
    toString e.position.line ++ ", field: " ++ toString e.field ++ ", byte: " ++
    toString e.position.byte ++ "): " ++ e.reason

end InvalidText

def textsFrom (position : Position) (field : Nat) :
    List (List UInt8) → Except InvalidText (List String)
  | [] => .ok []
  | bytes :: rest =>
    match Text.decode bytes with
    | .error index => .error ⟨position, field, index⟩
    | .ok s => (textsFrom position (field + 1) rest).map (s :: ·)

def RawRecord.texts (r : RawRecord) : Except InvalidText (List String) :=
  textsFrom r.position 0 r.fields

end SiteSafety.Csv
