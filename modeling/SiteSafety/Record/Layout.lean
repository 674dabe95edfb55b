namespace SiteSafety

inductive FieldKind where
  | byte
  | word
  | reserved
  deriving DecidableEq

structure FieldSpec where
  name : String
  offset : UInt64
  width : UInt64
  kind : FieldKind
  deriving DecidableEq

structure Layout where
  version : UInt8
  fields : List FieldSpec
  deriving DecidableEq

namespace Layout

def length (l : Layout) : UInt64 := l.fields.foldl (fun total f => total + f.width) 0

/-- Whether the fields, the first of which is to start at `cursor`, follow on one another. -/
def contiguousFrom (cursor : UInt64) : List FieldSpec → Bool
  | [] => true
  | f :: fs => f.offset == cursor && contiguousFrom (cursor + f.width) fs

def isContiguous (l : Layout) : Bool := contiguousFrom 0 l.fields

def field? (l : Layout) (name : String) : Option FieldSpec := l.fields.find? (·.name == name)

def wordFields (l : Layout) : List FieldSpec := l.fields.filter (·.kind == .word)

def headerLength : Nat := 4

def wordCount : Nat := 16

def paddingLength : Nat := 16

def paddingOffset : Nat := headerLength + wordCount * 8

def recordLength : Nat := paddingOffset + paddingLength

def conservationOffset : Nat := 1

def wordOffset (index : Nat) : Nat := headerLength + index * 8

def byteField (name : String) (offset : Nat) : FieldSpec := ⟨name, offset.toUInt64, 1, .byte⟩

def wordField (name : String) (index : Nat) : FieldSpec :=
  ⟨name, (wordOffset index).toUInt64, 8, .word⟩

def wordNames : List String :=
  [ "c_pfbs_ng_l", "c_ecoli_mpn_100ml", "c_tp_mg_l", "c_tds_mg_l",
    "cref_pfbs_ng_l", "cref_ecoli_mpn_100ml", "cref_tp_mg_l", "cref_tds_mg_l",
    "q_m3s", "v_ms", "e_avail_kwh", "kn_delta", "cpvm_value", "bio_stress_index",
    "qr_delta_mass", "qr_delta_energy" ]

/-- Four header bytes, sixteen words most significant byte first, and padding. -/
def first : Layout :=
  { version := 1
    fields :=
      [ byteField "context" 0, byteField "qr_ok" conservationOffset,
        byteField "reserved_flags1" 2, byteField "reserved_flags2" 3 ] ++
      wordNames.mapIdx (fun index name => wordField name index) ++
      [⟨"reserved", paddingOffset.toUInt64, paddingLength.toUInt64, .reserved⟩] }

end Layout

end SiteSafety
