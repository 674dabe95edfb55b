import SiteSafety.Impact

namespace SiteSafety

def Measurement.numbers (r : Measurement) (code : UInt8) : BareMeasurement :=
  ⟨r.inlet, r.outlet, r.flow, r.reference, code⟩

def BareMeasurement.row (n : BareMeasurement) : Measurement :=
  { nodeId := ""
    location := ""
    system := ""
    contaminant := ""
    parameter := ""
    unit := ""
    inlet := n.inlet
    outlet := n.outlet
    flow := n.flow
    reference := n.reference
    supply := 0
    ecoImpactScore := 0
    karmaPerUnit := 0
    notes := none }

theorem BareMeasurement.numbers_row (n : BareMeasurement) : n.row.numbers n.contaminant = n := rfl

section Lists

variable {α β : Type} {p : α → Prop} {l l' : List α}

/-- The second list is the first one without some of the elements that meet the condition. -/
inductive Pruned (p : α → Prop) : List α → List α → Prop
  | nil : Pruned p [] []
  | keep (a : α) {l l' : List α} : Pruned p l l' → Pruned p (a :: l) (a :: l')
  | delete {a : α} {l l' : List α} : p a → Pruned p l l' → Pruned p (a :: l) l'

namespace Pruned

theorem refl (l : List α) : Pruned p l l := by
  induction l with
  | nil => exact .nil
  | cons a l ih => exact .keep a ih

/-- Two folds stay related if an element that is kept relates what it leads to, and one that is deleted
does not lead out of the relation. -/
theorem foldl_rel {R : β → β → Prop} {f : β → α → β} (h : Pruned p l l')
    (hkeep : ∀ a s t, R s t → R (f s a) (f t a)) (hdelete : ∀ a s t, p a → R s t → R (f s a) t)
    {s t : β} (hst : R s t) : R (l.foldl f s) (l'.foldl f t) := by
  induction h generalizing s t with
  | nil => exact hst
  | keep a _ ih => exact ih (hkeep a s t hst)
  | delete ha _ ih => exact ih (hdelete _ s t ha hst)

theorem filterMap {γ : Type} {q : γ → Prop} {g : α → Option γ} (h : Pruned p l l')
    (hq : ∀ a, p a → ∀ c, g a = some c → q c) : Pruned q (l.filterMap g) (l'.filterMap g) := by
  induction h with
  | nil => exact .nil
  | keep a _ ih =>
      rw [List.filterMap_cons, List.filterMap_cons]
      cases g a with
      | none => exact ih
      | some c => exact .keep c ih
  | @delete a _ _ ha _ ih =>
      rw [List.filterMap_cons]
      cases hg : g a with
      | none => exact ih
      | some c => exact .delete (hq a ha c hg) ih

end Pruned

end Lists

/-- A row that nothing can be normalised by, for a flow that is a number and finite. -/
def Measurement.Unreferenced (r : Measurement) : Prop :=
  ¬ 0 < r.reference ∧ r.flow.isFinite = true

theorem Measurement.Unreferenced.ratio_eq {r : Measurement} (h : r.Unreferenced) : r.ratio = 0 :=
  if_neg h.1

end SiteSafety
