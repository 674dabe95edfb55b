import SiteSafety.Json.Lexeme

namespace SiteSafety.Json

/-- The digits that must follow; what stops early counts as malformed here. -/
def skipDigits (cs : List Char) : Except Refusal (List Char) :=
  match Decimal.takeDigits cs with
  | ([], _) => .error .malformed
  | (_, rest) => .ok rest

def skipWhole (cs : List Char) : Except Refusal (List Char) :=
  match cs with
  | '0' :: c :: rest => if c.isDigit then .error .malformed else .ok (c :: rest)
  | cs => skipDigits cs

def skipFraction (cs : List Char) : Except Refusal (List Char) :=
  match cs with
  | '.' :: rest => skipDigits rest
  | cs => .ok cs

def skipExponent (cs : List Char) : Except Refusal (List Char) :=
  match cs with
  | [] => .ok []
  | c :: rest =>
    if c = 'e' ∨ c = 'E' then skipDigits (Decimal.takeSign rest).2 else .ok (c :: rest)

def skipNumeral (cs : List Char) : Except Refusal (List Char) :=
  (skipWhole cs >>= skipFraction) >>= skipExponent

def skipEscape : List Char → Except Refusal Nat
  | [] => .error .truncated
  | 'u' :: cs => (hex4 cs).map fun _ => 5
  | c :: _ => if (simpleEscape? c).isSome then .ok 1 else .error .malformed

def skipText (cs : List Char) : Except Refusal (List Char) :=
  match cs with
  | [] => .error .truncated
  | c :: rest =>
    if c = '"' then .ok rest
    else if c = '\\' then
      match skipEscape rest with
      | .error e => .error e
      | .ok n => skipText (rest.drop n)
    else if c.toNat < 32 then .error .malformed
    else skipText rest
termination_by cs.length
decreasing_by
  · simp only [List.length_drop, List.length_cons]; omega
  · simp

def skipScalar (c : Char) (rest : List Char) : Except Refusal (List Char) :=
  if c = 'n' then literal ['u', 'l', 'l'] rest
  else if c = 't' then literal ['r', 'u', 'e'] rest
  else if c = 'f' then literal ['a', 'l', 's', 'e'] rest
  else if c = '-' then skipNumeral rest
  else if c.isDigit then skipNumeral (c :: rest)
  else if c = '"' then skipText rest
  else .error .malformed

inductive Frame where
  | array
  | object

/-- Where a walk stands: before a value, before a field's name, or behind a value. -/
inductive Place where
  | value
  | name
  | behind

/-- Walks on from a place inside the open frames until the outermost value ends. Every step but the
last takes a character, so the length of the text bounds the steps. -/
def skipFrom (fuel : Nat) (place : Place) (frames : List Frame) (cs : List Char) :
    Except Refusal (List Char) :=
  match fuel with
  | 0 => .error .truncated
  | fuel + 1 =>
    match place, frames with
    | .behind, [] => .ok cs
    | .behind, .array :: outer =>
      match skipBlanks cs with
      | [] => .error .truncated
      | ',' :: rest => skipFrom fuel .value frames rest
      | ']' :: rest => skipFrom fuel .behind outer rest
      | _ => .error .malformed
    | .behind, .object :: outer =>
      match skipBlanks cs with
      | [] => .error .truncated
      | ',' :: rest => skipFrom fuel .name frames rest
      | '}' :: rest => skipFrom fuel .behind outer rest
      | _ => .error .malformed
    | .name, _ =>
      match skipBlanks cs with
      | [] => .error .truncated
      | '"' :: rest =>
        match skipText rest with
        | .error e => .error e
        | .ok rest =>
          match skipBlanks rest with
          | [] => .error .truncated
          | ':' :: rest => skipFrom fuel .value frames rest
          | _ => .error .malformed
      | _ => .error .malformed
    | .value, _ =>
      match skipBlanks cs with
      | [] => .error .truncated
      | '[' :: rest =>
        match skipBlanks rest with
        | [] => .error .truncated
        | ']' :: rest => skipFrom fuel .behind frames rest
        | rest => skipFrom fuel .value (.array :: frames) rest
      | '{' :: rest =>
        match skipBlanks rest with
        | [] => .error .truncated
        | '}' :: rest => skipFrom fuel .behind frames rest
        | rest => skipFrom fuel .name (.object :: frames) rest
      | c :: rest =>
        match skipScalar c rest with
        | .error e => .error e
        | .ok rest => skipFrom fuel .behind frames rest

def skipValue (cs : List Char) : Except Refusal (List Char) :=
  skipFrom (cs.length + 2) .value [] cs

end SiteSafety.Json
