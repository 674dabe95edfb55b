import Mathlib.Data.Finset.Card
import SiteSafety.Proofs.HazardTable
import SiteSafety.Proofs.Text

namespace SiteSafety

instance (w : Float) : Decidable (AdmissibleWeight w) :=
  inferInstanceAs (Decidable (w.isFinite = true ∧ 0 ≤ w))

namespace HazardTable

inductive RefusedWeight (name : String) (w : Float) : Violation → Prop
  | notFinite (h : w.isNaN = true ∨ w.isInf = true) :
      RefusedWeight name w (.nonFinite "hazard_weight")
  | negative (hfinite : w.isFinite = true) (h : w < 0) : RefusedWeight name w (.negativeWeight name w)

inductive Way where
  | insert
  | adding

structure Call where
  way : Way
  name : String
  weight : Float

inductive Answer where
  | replaced (before : Option Float)
  | added
  | refused (cause : Violation)
  deriving DecidableEq

def Way.answer (before : Option Float) : Way → Answer
  | insert => .replaced before
  | adding => .added

/-- The table after a call and the answer to it; a refused call hands the table back as it was. -/
def Call.perform (t : HazardTable) (c : Call) : HazardTable × Answer :=
  match c.way with
  | .insert =>
    match t.insert c.name c.weight with
    | .ok (u, before) => (u, .replaced before)
    | .error cause => (t, .refused cause)
  | .adding =>
    match t.adding c.name c.weight with
    | .ok u => (u, .added)
    | .error cause => (t, .refused cause)

def run (start : HazardTable) (calls : List Call) : HazardTable :=
  calls.foldl (fun t c => (c.perform t).1) start

/-- The weight of the last call for a name that has an admissible one, or what the name had at first. -/
def lastWeight? (start : HazardTable) (calls : List Call) (name : String) : Option Float :=
  match calls.reverse.find? fun c => c.name = name ∧ AdmissibleWeight c.weight with
  | some c => some c.weight
  | none => start.find? name

variable {name : String} {w : Float} {v : Violation} {t u start : HazardTable} {c : Call}
  {calls : List Call}

theorem isFinite_eq_false_iff : w.isFinite = false ↔ w.isNaN = true ∨ w.isInf = true := by
  change w.toModel.unpack.isFinite = false ↔
    w.toModel.unpack.isNaN = true ∨ w.toModel.unpack.isInf = true
  cases w.toModel.unpack <;>
    simp [Float.Model.UnpackedFloat.isFinite, Float.Model.UnpackedFloat.isNaN,
      Float.Model.UnpackedFloat.isInf]

theorem requireWeight_eq_error : requireWeight name w = .error v ↔ RefusedWeight name w v := by
  cases hfinite : w.isFinite with
  | false =>
      have hrefused : requireWeight name w = .error (.nonFinite "hazard_weight") := by
        rw [requireWeight, hfinite]
        rfl
      rw [hrefused, Except.error.injEq]
      constructor
      · rintro rfl
        exact .notFinite (isFinite_eq_false_iff.mp hfinite)
      · rintro (_ | ⟨h, -⟩)
        · rfl
        · exact absurd h (hfinite ▸ Bool.false_ne_true)
  | true =>
      have hnumber : ¬ (w.isNaN = true ∨ w.isInf = true) := by
        rw [← isFinite_eq_false_iff, hfinite]
        exact Bool.noConfusion
      rw [requireWeight, hfinite, Bool.not_true, if_neg Bool.false_ne_true]
      split
      · next hneg =>
        rw [Except.error.injEq]
        constructor
        · rintro rfl
          exact .negative hfinite hneg
        · rintro (h | -)
          · exact absurd h hnumber
          · rfl
      · next hneg =>
        constructor
        · rintro ⟨⟩
        · rintro (h | ⟨-, h⟩)
          · exact absurd h hnumber
          · exact absurd h hneg

theorem admissible_or_refused (name : String) (w : Float) :
    AdmissibleWeight w ∨ ∃ v, RefusedWeight name w v := by
  cases h : requireWeight name w with
  | ok => exact .inl (requireWeight_eq_ok.mp h)
  | error v => exact .inr ⟨v, requireWeight_eq_error.mp h⟩

theorem RefusedWeight.not_admissible (h : RefusedWeight name w v) : ¬ AdmissibleWeight w := by
  intro hadmissible
  have hok : requireWeight name w = .ok () := requireWeight_eq_ok.mpr hadmissible
  cases hok.symm.trans (requireWeight_eq_error.mpr h)

theorem insert_of_admissible (h : AdmissibleWeight w) :
    t.insert name w = .ok (t.put name w, t.find? name) := by
  rw [HazardTable.insert, requireWeight_eq_ok.mpr h]
  rfl

theorem insert_of_refused (h : RefusedWeight name w v) : t.insert name w = .error v := by
  rw [HazardTable.insert, requireWeight_eq_error.mpr h]
  rfl

namespace Call

theorem perform_of_admissible (h : AdmissibleWeight c.weight) :
    c.perform t = (t.put c.name c.weight, c.way.answer (t.find? c.name)) := by
  rw [perform, HazardTable.adding, insert_of_admissible h]
  cases c.way <;> rfl

theorem perform_of_refused (h : RefusedWeight c.name c.weight v) :
    c.perform t = (t, .refused v) := by
  rw [perform, HazardTable.adding, insert_of_refused h]
  cases c.way <;> rfl

theorem answer_eq_refused (t : HazardTable) (c : Call) :
    (c.perform t).2 = .refused v ↔ RefusedWeight c.name c.weight v := by
  rcases admissible_or_refused c.name c.weight with h | ⟨v', h⟩
  · rw [perform_of_admissible h]
    refine iff_of_false ?_ fun hrefused => hrefused.not_admissible h
    cases c.way <;> nofun
  · rw [perform_of_refused h, Answer.refused.injEq]
    constructor
    · rintro rfl
      exact h
    · intro h'
      have heq := (requireWeight_eq_error.mpr h).symm.trans (requireWeight_eq_error.mpr h')
      exact Except.error.inj heq

theorem find?_perform (t : HazardTable) (c : Call) (name : String) : (c.perform t).1.find? name =
    if c.name = name ∧ AdmissibleWeight c.weight then some c.weight else t.find? name := by
  rcases admissible_or_refused c.name c.weight with h | ⟨v, h⟩
  · rw [perform_of_admissible h, find?_put]
    simp only [h, and_true, eq_comm]
  · rw [perform_of_refused h, if_neg fun h' => h.not_admissible h'.2]

end Call

theorem run_concat (start : HazardTable) (calls : List Call) (c : Call) :
    run start (calls ++ [c]) = (c.perform (run start calls)).1 :=
  List.foldl_concat _ _ _ _

theorem lastWeight?_concat (start : HazardTable) (calls : List Call) (c : Call) (name : String) :
    lastWeight? start (calls ++ [c]) name =
      if c.name = name ∧ AdmissibleWeight c.weight then some c.weight
      else lastWeight? start calls name := by
  rw [lastWeight?, List.reverse_append, List.reverse_singleton, List.singleton_append,
    List.find?_cons]
  by_cases h : c.name = name ∧ AdmissibleWeight c.weight
  · rw [if_pos h, decide_eq_true h]
  · rw [if_neg h, decide_eq_false h]
    rfl

theorem find?_run (start : HazardTable) (calls : List Call) (name : String) :
    (run start calls).find? name = lastWeight? start calls name := by
  induction calls using List.reverseRecOn with
  | nil => rfl
  | append_singleton calls c ih => rw [run_concat, Call.find?_perform, lastWeight?_concat, ih]

theorem find?_eq_some : t.find? name = some w ↔ (name, w) ∈ t.entries :=
  ⟨mem_of_lookup, find?_of_mem⟩

theorem validate_eq_ok_iff : t.validate = .ok () ↔
    ∀ name w, t.find? name = some w → AdmissibleWeight w := by
  simp only [validate_eq_ok, find?_eq_some, Prod.forall]

theorem validate_run (h : start.validate = .ok ()) (calls : List Call) :
    (run start calls).validate = .ok () := by
  induction calls using List.reverseRecOn with
  | nil => exact h
  | append_singleton calls c ih =>
      rw [validate_eq_ok_iff] at ih ⊢
      intro name w hw
      rw [run_concat, Call.find?_perform] at hw
      split at hw
      · next hc =>
        cases hw
        exact hc.2
      · exact ih name w hw

theorem weight_run (start : HazardTable) (calls : List Call) (name : String) :
    (run start calls).weight name = (lastWeight? start calls name).getD 1 := by
  rw [weight, find?_run]
  rfl

theorem contains_run (start : HazardTable) (calls : List Call) (name : String) :
    (run start calls).contains name = (lastWeight? start calls name).isSome := by
  rw [contains, find?_run]

theorem exists_known (t : HazardTable) : ∃ known : Finset String,
    (∀ name, name ∈ known ↔ t.contains name = true) ∧ t.size = known.card := by
  refine ⟨(t.entries.map Prod.fst).toFinset, fun name => ?_, ?_⟩
  · simp only [contains, Option.isSome_iff_exists, find?_eq_some, List.mem_toFinset, List.mem_map,
      Prod.exists, exists_and_right, exists_eq_right]
  · rw [List.toFinset_card_of_nodup t.nodup_names, List.length_map]
    rfl

/-- A table is what it answers. -/
theorem eq_of_find?_eq (h : ∀ name, t.find? name = u.find? name) : t = u := by
  have hmem : ∀ e : String × Float, e ∈ t.entries ↔ e ∈ u.entries := by
    rintro ⟨name, w⟩
    rw [← find?_eq_some, ← find?_eq_some, h]
  have hnodup {es : List (String × Float)} (hes : Hazard.Sorted es) : es.Nodup := by
    refine List.Pairwise.imp (fun hlt heq => ?_) hes
    exact String.ne_of_lt hlt (congrArg Prod.fst heq)
  have hperm : t.entries.Perm u.entries :=
    (List.perm_ext_iff_of_nodup (hnodup t.sorted) (hnodup u.sorted)).mpr hmem
  exact eq_of_entries_eq <|
    hperm.eq_of_pairwise (fun _ _ _ _ hlt hgt => absurd hgt (String.lt_asymm hlt)) t.sorted u.sorted

theorem put_comm (h : name ≠ other) (w w' : Float) :
    (t.put name w).put other w' = (t.put other w').put name w := by
  refine eq_of_find?_eq fun asked => ?_
  rw [find?_put, find?_put, find?_put, find?_put]
  split
  · next hother => rw [if_neg (fun hname => h (hname.symm.trans hother))]
  · rfl

theorem ofList_perm {entries entries' : List (String × Float)} (h : entries.Perm entries')
    (hnames : (entries.map Prod.fst).Nodup) : ofList entries = ofList entries' := by
  refine h.foldl_eq' (fun e he e' he' t => ?_) empty
  by_cases heq : e = e'
  · rw [heq]
  · exact put_comm (fun hname => heq (List.inj_on_of_nodup_map hnames he he' hname)) e.2 e'.2

/-- The refusal of the first name, in the order of bytes, whose weight is not admissible. -/
def FirstRefused (t : HazardTable) (v : Violation) : Prop :=
  ∃ name w, t.find? name = some w ∧ RefusedWeight name w v ∧
    ∀ other w', t.find? other = some w' → Text.encode other < Text.encode name → AdmissibleWeight w'

theorem validate_eq_error (t : HazardTable) (v : Violation) :
    t.validate = .error v ↔ t.FirstRefused v := by
  simp only [validate, forM_eq_error, requireWeight_eq_error, requireWeight_eq_ok, FirstRefused,
    find?_eq_some, Text.encode_lt_encode]
  have hsorted := t.sorted
  have hbefore {before after : List (String × Float)} {a e : String × Float}
      (h : Hazard.Sorted (before ++ e :: after)) :
      a ∈ before ↔ a ∈ before ++ e :: after ∧ a.1 < e.1 :=
    mem_before_iff_of_pairwise (fun _ _ => String.lt_asymm) h
  constructor
  · rintro ⟨before, ⟨name, w⟩, after, hentries, hadmissible, hrefused⟩
    rw [hentries] at hsorted ⊢
    refine ⟨name, w, List.mem_append_right before List.mem_cons_self, hrefused, ?_⟩
    intro other w' hother hlt
    exact hadmissible (other, w') ((hbefore hsorted).mpr ⟨hother, hlt⟩)
  · rintro ⟨name, w, hmem, hrefused, hfirst⟩
    obtain ⟨before, after, hentries⟩ := List.append_of_mem hmem
    rw [hentries] at hsorted hfirst
    refine ⟨before, (name, w), after, hentries, fun e he => ?_, hrefused⟩
    obtain ⟨he, hlt⟩ := (hbefore hsorted).mp he
    exact hfirst e.1 e.2 he hlt

theorem validate_empty : empty.validate = .ok () := rfl

theorem validate_standard : standard.validate = .ok () := by decide +kernel

/-- A table that is valid at first, as the empty one and the one of the daily run are, under any calls.
A call is refused for its own weight only, and then changes nothing; otherwise it answers what its name
had before. Afterwards the last admissible weights count, of which there is one for each known name, and
the table is valid. A table of any other origin, the order of its entries aside, is valid if all its
weights are admissible, and else refused for the first name whose weight is not. -/
theorem run_outcome (start : HazardTable) (hstart : start.validate = .ok ()) (calls : List Call) :
    (empty.validate = .ok () ∧ standard.validate = .ok ()) ∧
    (∀ before c after, calls = before ++ c :: after →
      (∀ v, (c.perform (run start before)).2 = .refused v ↔ RefusedWeight c.name c.weight v) ∧
      (∀ v, RefusedWeight c.name c.weight v →
        (c.perform (run start before)).1 = run start before) ∧
      ((¬ ∃ v, RefusedWeight c.name c.weight v) →
        (c.perform (run start before)).2 = c.way.answer (lastWeight? start before c.name))) ∧
    (∀ name,
      (run start calls).weight name = (lastWeight? start calls name).getD 1 ∧
      (run start calls).contains name = (lastWeight? start calls name).isSome ∧
      AdmissibleWeight ((run start calls).weight name)) ∧
    (∃ known : Finset String, (∀ name, name ∈ known ↔ (run start calls).contains name = true) ∧
      (run start calls).size = known.card) ∧
    (run start calls).validate = .ok () ∧
    ∀ t : HazardTable,
      (t.validate = .ok () ↔ ∀ name w, t.find? name = some w → AdmissibleWeight w) ∧
      (∀ v, t.validate = .error v ↔ t.FirstRefused v) ∧
      ∀ entries entries' : List (String × Float), entries.Perm entries' →
        (entries.map Prod.fst).Nodup → ofList entries = t → ofList entries' = t := by
  refine ⟨⟨validate_empty, validate_standard⟩, ?_, fun name => ?_, exists_known _,
    validate_run hstart calls, fun t => ⟨validate_eq_ok_iff, validate_eq_error t, ?_⟩⟩
  · intro before c _ _
    refine ⟨fun v => c.answer_eq_refused _, fun v h => ?_, fun hnot => ?_⟩
    · rw [Call.perform_of_refused h]
    · have hadmissible := (admissible_or_refused c.name c.weight).resolve_right hnot
      rw [Call.perform_of_admissible hadmissible, find?_run]
  · exact ⟨weight_run start calls name, contains_run start calls name,
      weight_admissible (validate_run hstart calls) name⟩
  · rintro entries entries' hperm hnames rfl
    exact (ofList_perm hperm hnames).symm

def retuned : List Call :=
  [ ⟨.insert, "TP", 2⟩, ⟨.adding, "TP", -1⟩, ⟨.insert, "tp", 0.5⟩, ⟨.insert, "PFBS", 0 / 0⟩,
    ⟨.adding, "TP", -0.0⟩ ]

theorem run_outcome_retuned :
    standard.validate = .ok () ∧ (run standard retuned).validate = .ok () ∧
      (run standard retuned).weight "TP" = -0.0 ∧ (run standard retuned).weight "tp" = 0.5 ∧
      (run standard retuned).weight "PFBS" = 1 ∧ (run standard retuned).weight "Tp" = 1 := by
  obtain ⟨-, -, hnames, -, hvalid, -⟩ := run_outcome standard validate_standard retuned
  refine ⟨validate_standard, hvalid, ?_, ?_, ?_, ?_⟩
  · rw [(hnames "TP").1]; decide +kernel
  · rw [(hnames "tp").1]; decide +kernel
  · rw [(hnames "PFBS").1]; decide +kernel
  · rw [(hnames "Tp").1]; decide +kernel

end HazardTable

end SiteSafety
