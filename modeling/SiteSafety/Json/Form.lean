import SiteSafety.Json.Skip

namespace SiteSafety.Json

abbrev Form := Reader Json

/-- Why a value that starts here is refused where another kind is asked for: it must still be a
well-formed start. -/
def refuse (cs : List Char) : Refusal :=
  let outcome : Except Refusal Unit := match cs with
    | [] => .error .truncated
    | c :: rest =>
      if c = 'n' then (literal ['u', 'l', 'l'] rest).map fun _ => ()
      else if c = 't' then (literal ['r', 'u', 'e'] rest).map fun _ => ()
      else if c = 'f' then (literal ['a', 'l', 's', 'e'] rest).map fun _ => ()
      else if c = '-' then (readNumeral true rest).map fun _ => ()
      else if c.isDigit then (readNumeral false (c :: rest)).map fun _ => ()
      else if c = '"' then (readText rest).map fun _ => ()
      else if c = '[' ∨ c = '{' then .ok ()
      else .error .malformed
  match outcome with
  | .ok _ => .mismatch
  | .error e => e

def numeral : Reader Numeral := fun cs =>
  match skipBlanks cs with
  | [] => .error .truncated
  | c :: rest =>
    if c = '-' then readNumeral true rest
    else if c.isDigit then readNumeral false (c :: rest)
    else .error (refuse (c :: rest))

namespace Form

def number : Form := fun cs => (numeral cs).map fun r => (.number r.1.toFloat, r.2)

def index (bound : Nat) : Form := fun cs => do
  match ← numeral cs with
  | (.whole n, rest) => if n < bound then .ok (.whole n, rest) else .error .mismatch
  | (.real _, _) => .error .mismatch

def text : Form := fun cs =>
  match skipBlanks cs with
  | [] => .error .truncated
  | '"' :: rest => (readText rest).map fun r => (.text r.1, r.2)
  | cs => .error (refuse cs)

def flag : Form := fun cs =>
  match skipBlanks cs with
  | [] => .error .truncated
  | 't' :: rest => (literal ['r', 'u', 'e'] rest).map fun rest => (.flag true, rest)
  | 'f' :: rest => (literal ['a', 'l', 's', 'e'] rest).map fun rest => (.flag false, rest)
  | cs => .error (refuse cs)

def null : Form := fun cs =>
  match skipBlanks cs with
  | [] => .error .truncated
  | 'n' :: rest => (literal ['u', 'l', 'l'] rest).map fun rest => (.null, rest)
  | cs => .error (refuse cs)

def optional (form : Form) : Form := fun cs =>
  match skipBlanks cs with
  | 'n' :: rest => (literal ['u', 'l', 'l'] rest).map fun rest => (.null, rest)
  | cs => form cs

def nextItem (first : Bool) (cs : List Char) : Except Refusal (Option (List Char)) :=
  match skipBlanks cs with
  | [] => .error .truncated
  | ']' :: _ => .ok none
  | c :: rest =>
    if first then .ok (some (c :: rest))
    else if c = ',' then
      match skipBlanks rest with
      | [] => .error .truncated
      | ']' :: _ => .error .malformed
      | rest => .ok (some rest)
    else .error .malformed

def endItems (cs : List Char) : Except Refusal (List Char) :=
  match skipBlanks cs with
  | [] => .error .truncated
  | ']' :: rest => .ok rest
  | _ => .error .malformed

def items (first : Bool) : List Form → Reader (List Json)
  | [], cs => .ok ([], cs)
  | form :: forms, cs =>
    match nextItem first cs with
    | .error e => .error e
    | .ok none => .ok ([], cs)
    | .ok (some cs) => do
      let (j, cs) ← form cs
      let (js, cs) ← items false forms cs
      return (j :: js, cs)

def tuple (n : Nat) (form : Form) : Form := fun cs =>
  match skipBlanks cs with
  | [] => .error .truncated
  | '[' :: rest => do
    let (js, rest) ← items true (List.replicate n form) rest
    if js.length < n then .error .mismatch
    let rest ← endItems rest
    return (.array js, rest)
  | cs => .error (refuse cs)

def nextName (first : Bool) (cs : List Char) : Except Refusal (Option (List Char)) :=
  match skipBlanks cs with
  | [] => .error .truncated
  | '}' :: _ => .ok none
  | c :: rest =>
    if first then
      if c = '"' then .ok (some rest) else .error .malformed
    else if c = ',' then
      match skipBlanks rest with
      | [] => .error .truncated
      | '"' :: rest => .ok (some rest)
      | _ => .error .malformed
    else .error .malformed

def colon (cs : List Char) : Except Refusal (List Char) :=
  match skipBlanks cs with
  | [] => .error .truncated
  | ':' :: rest => .ok rest
  | _ => .error .malformed

def endFields (cs : List Char) : Except Refusal (List Char) :=
  match skipBlanks cs with
  | [] => .error .truncated
  | '}' :: rest => .ok rest
  | _ => .error .malformed

/-- What to do with a field, given the fields before it and its name: read it by a form, pass over
it, or refuse the object. -/
abbrev FieldPolicy := List (String × Json) → String → Except Refusal (Option Form)

/-- Fields up to the closing brace, behind the ones already found. Every field takes characters, so
the length of the text bounds their number. -/
def fieldsFrom (fuel : Nat) (policy : FieldPolicy) (first : Bool) (found : List (String × Json)) :
    Reader (List (String × Json)) := fun cs =>
  match fuel with
  | 0 => .error .truncated
  | fuel + 1 =>
    match nextName first cs with
    | .error e => .error e
    | .ok none => .ok (found, cs)
    | .ok (some cs) => do
      let (name, cs) ← readText cs
      let form? ← policy found name
      let cs ← colon cs
      match form? with
      | some form =>
        let (j, cs) ← form cs
        fieldsFrom fuel policy false (found ++ [(name, j)]) cs
      | none =>
        let cs ← skipValue cs
        fieldsFrom fuel policy false found cs

def table (form : Form) : Form := fun cs =>
  match skipBlanks cs with
  | [] => .error .truncated
  | '{' :: rest => do
    let (found, rest) ← fieldsFrom (rest.length + 1) (fun _ _ => .ok (some form)) true [] rest
    let rest ← endFields rest
    return (.object found, rest)
  | cs => .error (refuse cs)

structure Member where
  name : String
  required : Bool
  form : Form

/-- Names that no member has are passed over; a member's name stands once. -/
def memberPolicy (members : List Member) : FieldPolicy := fun found name =>
  match members.find? (·.name == name) with
  | none => .ok none
  | some m => if (found.lookup name).isSome then .error .mismatch else .ok (some m.form)

def arrange (members : List Member) (found : List (String × Json)) :
    Except Refusal (List (String × Json)) :=
  if members.any fun m => m.required && (found.lookup m.name).isNone then .error .mismatch
  else .ok (members.filterMap fun m => (found.lookup m.name).map (m.name, ·))

/-- An object with these members, or the array of their values; at the end of the array those that
are not required may be missing. -/
def fields (members : List Member) : Form := fun cs =>
  match skipBlanks cs with
  | [] => .error .truncated
  | '{' :: rest => do
    let (found, rest) ← fieldsFrom (rest.length + 1) (memberPolicy members) true [] rest
    let found ← arrange members found
    let rest ← endFields rest
    return (.object found, rest)
  | '[' :: rest => do
    let (js, rest) ← items true (members.map (·.form)) rest
    let found ← arrange members ((members.map (·.name)).zip js)
    let rest ← endItems rest
    return (.object found, rest)
  | cs => .error (refuse cs)

def required (name : String) (form : Form) : Member := ⟨name, true, form⟩

def defaulted (name : String) (form : Form) : Member := ⟨name, false, form⟩

/-- One of several names, or an object whose only field has one of them. A name without a form
stands alone, or with `null`. -/
structure Variant where
  name : String
  form : Option Form

def variant? (variants : List Variant) (name : String) : Except Refusal Variant :=
  match variants.find? (·.name == name) with
  | none => .error .mismatch
  | some v => .ok v

def choice (variants : List Variant) : Form := fun cs =>
  match skipBlanks cs with
  | [] => .error .truncated
  | '"' :: rest => do
    let (name, rest) ← readText rest
    let v ← variant? variants name
    if v.form.isSome then .error .mismatch
    return (.text name, rest)
  | '{' :: rest => do
    let (name, rest) ← match skipBlanks rest with
      | [] => .error .truncated
      | '"' :: rest => readText rest
      | _ => .error .malformed
    let v ← variant? variants name
    let rest ← colon rest
    let (j, rest) ← match v.form with
      | some form => (form rest).map fun r => (.object [(name, r.1)], r.2)
      | none => (null rest).map fun r => (.text name, r.2)
    let rest ← endFields rest
    return (j, rest)
  | _ => .error .malformed

def names (ns : List String) : Form := choice (ns.map (Variant.mk · none))

end Form

def read (form : Form) (document : String) : Except Refusal Json := do
  let (j, rest) ← form document.toList
  if (skipBlanks rest).isEmpty then .ok j else .error .malformed

end SiteSafety.Json
