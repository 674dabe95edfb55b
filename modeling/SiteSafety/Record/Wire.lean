import SiteSafety.Record.Basic
import SiteSafety.Record.Layout

namespace SiteSafety

inductive WireError where
  | shortBuffer (needed got : Nat)
  | unknownContext (tag : UInt8)
  | invalidFlag (offset : Nat) (value : UInt8)
  deriving DecidableEq

def WireError.message : WireError → String
  | .shortBuffer needed got =>
    "buffer too short for safety-state record: need " ++ toString needed ++ " bytes, got " ++
      toString got
  | .unknownContext tag => "unknown context tag " ++ toString tag.toNat
  | .invalidFlag offset value =>
    "flag byte at offset " ++ toString offset ++ " must be 0 or 1, got " ++ toString value.toNat

namespace Record

def flagByte (b : Bool) : UInt8 := if b then 1 else 0

def encode (r : Record) : List UInt8 :=
  [r.context.tag, flagByte r.conservationOk] ++ r.reservedFlags.toList ++
    r.words.flatMap Binary64.toBytes ++ r.reserved.toList

def encodeOnto (written : List UInt8) (records : List Record) : List UInt8 :=
  records.foldl (fun bytes r => bytes ++ r.encode) written

def byteAt (bytes : List UInt8) (offset : Nat) : UInt8 := bytes.getD offset 0

def wordAt (bytes : List UInt8) (offset : Nat) : Binary64 :=
  let b := fun i => byteAt bytes (offset + i)
  .ofBytes (b 0) (b 1) (b 2) (b 3) (b 4) (b 5) (b 6) (b 7)

def flagOf? (value : UInt8) : Option Bool :=
  if value = 0 then some false else if value = 1 then some true else none

def ofBytes (context : Context) (conservationOk : Bool) (bytes : List UInt8) : Record :=
  let word := fun index => wordAt bytes (Layout.wordOffset index)
  { context := context
    conservationOk := conservationOk
    reservedFlags := .ofFn fun i => byteAt bytes (2 + i)
    concentrations := ⟨word 0, word 1, word 2, word 3⟩
    thresholds := ⟨word 4, word 5, word 6, word 7⟩
    hydraulics := ⟨word 8, word 9, word 10⟩
    indices := ⟨word 11, word 12, word 13⟩
    residual := ⟨word 14, word 15⟩
    reserved := .ofFn fun i => byteAt bytes (Layout.paddingOffset + i) }

/-- Takes the first 148 bytes and looks at no more. The context is checked before the flag. -/
def decode (bytes : List UInt8) : Except WireError Record :=
  if bytes.length < Layout.recordLength then
    .error (.shortBuffer Layout.recordLength bytes.length)
  else
    let tag := byteAt bytes 0
    let flag := byteAt bytes Layout.conservationOffset
    match Context.ofTag? tag with
    | none => .error (.unknownContext tag)
    | some context =>
      match flagOf? flag with
      | none => .error (.invalidFlag Layout.conservationOffset flag)
      | some ok => .ok (ofBytes context ok bytes)

end Record

end SiteSafety
