import SiteSafety.Json.Form

namespace SiteSafety.Json

structure Schema (α : Type) where
  form : Form
  toJson : α → Json
  ofJson? : Json → Option α

namespace Schema

variable {α : Type}

def read (s : Schema α) (document : String) : Except Refusal α := do
  let j ← Json.read s.form document
  match s.ofJson? j with
  | some x => .ok x
  | none => .error .mismatch

def write (s : Schema α) (x : α) : String := (s.toJson x).compact

def required (s : Schema α) (name : String) : Form.Member := Form.required name s.form

def defaulted (s : Schema α) (name : String) : Form.Member := Form.defaulted name s.form

def get? (s : Schema α) (j : Json) (name : String) : Option α := j.field? name >>= s.ofJson?

def getD? (s : Schema α) (j : Json) (name : String) (default : α) : Option α :=
  match j.field? name with
  | none => some default
  | some v => s.ofJson? v

def float : Schema Float where
  form := Form.number
  toJson := .number
  ofJson? | .number x => some x | _ => none

def string : Schema String where
  form := Form.text
  toJson := .text
  ofJson? | .text s => some s | _ => none

def bool : Schema Bool where
  form := Form.flag
  toJson := .flag
  ofJson? | .flag b => some b | _ => none

def nat (bound : Nat) : Schema Nat where
  form := Form.index bound
  toJson := .whole
  ofJson? | .whole n => some n | _ => none

def byte : Schema UInt8 where
  form := Form.index 256
  toJson b := .whole b.toNat
  ofJson? | .whole n => some n.toUInt8 | _ => none

def option (s : Schema α) : Schema (Option α) where
  form := Form.optional s.form
  toJson | none => .null | some x => s.toJson x
  ofJson? | .null => some none | j => (s.ofJson? j).map some

def vector (n : Nat) (s : Schema α) : Schema (Vector α n) where
  form := Form.tuple n s.form
  toJson v := .array (v.toList.map s.toJson)
  ofJson?
    | .array js => do
      let xs ← js.mapM s.ofJson?
      if h : xs.toArray.size = n then return ⟨xs.toArray, h⟩ else none
    | _ => none

def named (values : List α) (name : α → String) : Schema α where
  form := Form.names (values.map name)
  toJson x := .text (name x)
  ofJson? | .text s => values.find? (name · == s) | _ => none

end Schema

end SiteSafety.Json
