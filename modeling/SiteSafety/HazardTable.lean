import SiteSafety.Basic

namespace SiteSafety

/-- The first entry of a name decides, so a table keeps each name once. -/
def Hazard.Sorted (entries : List (String × Float)) : Prop :=
  entries.Pairwise fun a b => a.1 < b.1

def Hazard.insertEntry (name : String) (weight : Float) :
    List (String × Float) → List (String × Float)
  | [] => [(name, weight)]
  | e :: es =>
    if name = e.1 then (name, weight) :: es
    else if name < e.1 then (name, weight) :: e :: es
    else e :: insertEntry name weight es

theorem Hazard.mem_insertEntry {name : String} {weight : Float} {es : List (String × Float)}
    {e : String × Float} (h : e ∈ insertEntry name weight es) : e = (name, weight) ∨ e ∈ es := by
  induction es with
  | nil => simpa [insertEntry] using h
  | cons a es ih =>
    rw [insertEntry] at h
    split at h
    · rcases List.mem_cons.1 h with h | h
      · exact .inl h
      · exact .inr (List.mem_cons_of_mem _ h)
    · split at h
      · exact List.mem_cons.1 h
      · rcases List.mem_cons.1 h with h | h
        · exact .inr (h ▸ List.mem_cons_self)
        · exact (ih h).imp_right (List.mem_cons_of_mem _)

theorem Hazard.sorted_insertEntry (name : String) (weight : Float) {es : List (String × Float)}
    (h : Sorted es) : Sorted (insertEntry name weight es) := by
  induction es with
  | nil => simp [insertEntry, Sorted]
  | cons a es ih =>
    obtain ⟨ha, hes⟩ := List.pairwise_cons.1 h
    rw [insertEntry]
    split
    · next heq => exact List.pairwise_cons.2 ⟨fun b hb => heq ▸ ha b hb, hes⟩
    · split
      · next hlt =>
        refine List.pairwise_cons.2 ⟨fun b hb => ?_, h⟩
        rcases List.mem_cons.1 hb with rfl | hb
        · exact hlt
        · exact String.lt_trans hlt (ha b hb)
      · next hne hnlt =>
        refine List.pairwise_cons.2 ⟨fun b hb => ?_, ih hes⟩
        rcases mem_insertEntry hb with rfl | hb
        · exact Std.lt_of_le_of_ne (String.not_lt.1 hnlt) (fun h => hne h.symm)
        · exact ha b hb

structure HazardTable where
  entries : List (String × Float)
  sorted : Hazard.Sorted entries
  deriving DecidableEq

namespace HazardTable

def defaultWeight : Float := 1

def empty : HazardTable := ⟨[], List.Pairwise.nil⟩

def requireWeight (name : String) (weight : Float) : Except Violation Unit :=
  if !weight.isFinite then .error (.nonFinite "hazard_weight")
  else if weight < 0 then .error (.negativeWeight name weight)
  else .ok ()

def put (t : HazardTable) (name : String) (weight : Float) : HazardTable :=
  ⟨Hazard.insertEntry name weight t.entries, Hazard.sorted_insertEntry name weight t.sorted⟩

def find? (t : HazardTable) (name : String) : Option Float := t.entries.lookup name

def insert (t : HazardTable) (name : String) (weight : Float) :
    Except Violation (HazardTable × Option Float) :=
  (requireWeight name weight).map fun _ => (t.put name weight, t.find? name)

def adding (t : HazardTable) (name : String) (weight : Float) :
    Except Violation HazardTable :=
  (t.insert name weight).map (·.1)

def weight (t : HazardTable) (name : String) : Float := (t.find? name).getD defaultWeight

def contains (t : HazardTable) (name : String) : Bool := (t.find? name).isSome

def size (t : HazardTable) : Nat := t.entries.length

/-- The first entry, by name, that `insert` would refuse decides the error. -/
def validate (t : HazardTable) : Except Violation Unit :=
  t.entries.forM fun e => requireWeight e.1 e.2

/-- Later entries of a name replace earlier ones. -/
def ofList (entries : List (String × Float)) : HazardTable :=
  entries.foldl (fun t e => t.put e.1 e.2) empty

def ofPanel (p : Panel Float) : HazardTable :=
  ofList (Contaminant.all.map fun c => (c.name, p.get c))

def standard : HazardTable := ofPanel ⟨1, 1.5, 1.2, 0.8⟩

end HazardTable

end SiteSafety
