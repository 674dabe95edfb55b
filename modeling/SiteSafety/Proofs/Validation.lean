import Mathlib.Data.List.Forall2
import SiteSafety.Settings
import SiteSafety.Proofs.Float.Arithmetic
import SiteSafety.Proofs.Lookup

namespace SiteSafety

open FloatValue

section Except

variable {α β ε ε' : Type}

theorem bind_eq_ok {x : Except ε α} {f : α → Except ε β} {b : β} :
    x >>= f = .ok b ↔ ∃ a, x = .ok a ∧ f a = .ok b := by
  cases x with
  | error e => exact ⟨nofun, fun ⟨_, h, _⟩ => (nomatch h)⟩
  | ok a => exact ⟨fun h => ⟨a, rfl, h⟩, fun ⟨_, ha, h⟩ => by cases ha; exact h⟩

theorem bind_eq_error {x : Except ε α} {f : α → Except ε β} {e : ε} :
    x >>= f = .error e ↔ x = .error e ∨ ∃ a, x = .ok a ∧ f a = .error e := by
  cases x with
  | error e' =>
      rw [or_iff_left (fun ⟨_, h, _⟩ => nomatch h)]
      exact ⟨fun h => congrArg _ (Except.error.inj h), fun h => congrArg _ (Except.error.inj h)⟩
  | ok a =>
      constructor
      · exact fun h => .inr ⟨a, rfl, h⟩
      · rintro (h | ⟨_, ha, h⟩)
        · cases h
        · cases ha
          exact h

theorem ok_bind (a : α) (f : α → Except ε β) : (.ok a >>= f) = f a := rfl

theorem mapError_ok (a : α) (f : ε → ε') : (Except.ok a).mapError f = .ok a := rfl

theorem exists_ok_of_any {x : Except ε α} {p : α → Bool} (h : x.toOption.any p = true) :
    ∃ a, x = .ok a ∧ p a = true := by
  cases x with
  | error e => cases h
  | ok a => exact ⟨a, rfl, h⟩

theorem seq_eq_ok {x y : Except ε Unit} :
    (do x; y) = .ok () ↔ x = .ok () ∧ y = .ok () := by
  rw [bind_eq_ok]
  exact ⟨fun ⟨_, hx, hy⟩ => ⟨hx, hy⟩, fun ⟨hx, hy⟩ => ⟨(), hx, hy⟩⟩

theorem forM_eq_ok {f : α → Except ε Unit} {l : List α} :
    l.forM f = .ok () ↔ ∀ a ∈ l, f a = .ok () := by
  induction l with
  | nil => exact ⟨fun _ => nofun, fun _ => rfl⟩
  | cons a l ih =>
      change (do f a; l.forM f) = .ok () ↔ _
      rw [seq_eq_ok, ih, List.forall_mem_cons]

theorem mapM_eq_ok_map {f : α → Except ε β} {g : α → β} {l : List α}
    (h : ∀ a ∈ l, f a = .ok (g a)) : l.mapM f = .ok (l.map g) := by
  induction l with
  | nil => rfl
  | cons a l ih =>
      obtain ⟨ha, hl⟩ := List.forall_mem_cons.mp h
      rw [List.mapM_cons, ha, ih hl]
      rfl

theorem mapM_eq_ok {f : α → Except ε β} {l : List α} {out : List β} :
    l.mapM f = .ok out ↔ List.Forall₂ (fun a b => f a = .ok b) l out := by
  induction l generalizing out with
  | nil =>
      rw [List.forall₂_nil_left_iff]
      exact ⟨fun h => by cases h; rfl, fun h => by rw [h]; rfl⟩
  | cons a l ih =>
      simp only [List.mapM_cons, bind_eq_ok, List.forall₂_cons_left_iff, ih]
      constructor
      · rintro ⟨b, hb, bs, hbs, h⟩
        cases h
        exact ⟨b, bs, hb, hbs, rfl⟩
      · rintro ⟨b, bs, hb, hbs, rfl⟩
        exact ⟨b, hb, bs, hbs, rfl⟩

/-- The first element that is refused decides the error. -/
theorem mapM_eq_error {f : α → Except ε β} {l : List α} {e : ε} :
    l.mapM f = .error e ↔ ∃ before x after, l = before ++ x :: after ∧
      (∀ a ∈ before, ∃ b, f a = .ok b) ∧ f x = .error e := by
  induction l with
  | nil =>
      refine ⟨nofun, ?_⟩
      rintro ⟨before, x, after, h, -⟩
      exact absurd h (by simp)
  | cons a l ih =>
      rw [List.mapM_cons, bind_eq_error]
      constructor
      · rintro (h | ⟨b, hb, h⟩)
        · exact ⟨[], a, l, rfl, nofun, h⟩
        · obtain h | ⟨_, _, h⟩ := bind_eq_error.mp h
          · obtain ⟨before, x, after, rfl, hbefore, hx⟩ := ih.mp h
            exact ⟨a :: before, x, after, rfl, List.forall_mem_cons.mpr ⟨⟨b, hb⟩, hbefore⟩, hx⟩
          · cases h
      · rintro ⟨before, x, after, h, hbefore, hx⟩
        cases before with
        | nil =>
            cases h
            exact .inl hx
        | cons y before =>
            cases h
            obtain ⟨⟨b, hb⟩, hbefore⟩ := List.forall_mem_cons.mp hbefore
            exact .inr ⟨b, hb, bind_eq_error.mpr (.inl (ih.mpr ⟨before, x, after, rfl, hbefore, hx⟩))⟩

theorem forM_eq_error {f : α → Except ε Unit} {l : List α} {e : ε} :
    l.forM f = .error e ↔ ∃ before x after, l = before ++ x :: after ∧
      (∀ a ∈ before, f a = .ok ()) ∧ f x = .error e := by
  induction l with
  | nil =>
      refine ⟨nofun, ?_⟩
      rintro ⟨before, x, after, h, -⟩
      exact absurd h (by simp)
  | cons a l ih =>
      change (do f a; l.forM f) = .error e ↔ _
      rw [bind_eq_error]
      constructor
      · rintro (h | ⟨⟨⟩, ha, h⟩)
        · exact ⟨[], a, l, rfl, nofun, h⟩
        · obtain ⟨before, x, after, rfl, hbefore, hx⟩ := ih.mp h
          exact ⟨a :: before, x, after, rfl, List.forall_mem_cons.mpr ⟨ha, hbefore⟩, hx⟩
      · rintro ⟨before, x, after, h, hbefore, hx⟩
        cases before with
        | nil =>
            cases h
            exact .inl hx
        | cons y before =>
            cases h
            obtain ⟨ha, hbefore⟩ := List.forall_mem_cons.mp hbefore
            exact .inr ⟨(), ha, ih.mpr ⟨before, x, after, rfl, hbefore, hx⟩⟩

theorem ite_eq_ok {p : Prop} [Decidable p] {e : ε} :
    (if p then .ok () else .error e : Except ε Unit) = .ok () ↔ p := by
  split
  · next h => exact iff_of_true rfl h
  · next h => exact iff_of_false nofun h

theorem ite_error_eq_ok {p : Prop} [Decidable p] {e : ε} {x : Except ε α} {a : α} :
    (if p then .error e else x) = .ok a ↔ ¬ p ∧ x = .ok a := by
  split
  · next h => exact iff_of_false nofun (fun h' => h'.1 h)
  · next h => exact (and_iff_right h).symm

end Except

/-- In a list that ascends, what stands before an element is what comes before it in the order. -/
theorem mem_before_iff_of_pairwise {α : Type} {R : α → α → Prop} (hasymm : ∀ a b, R a b → ¬ R b a)
    {before after : List α} {a e : α} (h : (before ++ e :: after).Pairwise R) :
    a ∈ before ↔ a ∈ before ++ e :: after ∧ R a e := by
  obtain ⟨-, hrest, hbefore⟩ := List.pairwise_append.mp h
  obtain ⟨hafter, -⟩ := List.pairwise_cons.mp hrest
  rw [List.mem_append, List.mem_cons]
  constructor
  · exact fun ha => ⟨.inl ha, hbefore a ha e List.mem_cons_self⟩
  · rintro ⟨ha | rfl | ha, hlt⟩
    · exact ha
    · exact absurd hlt (hasymm _ _ hlt)
    · exact absurd hlt (hasymm _ _ (hafter a ha))

def AdmissibleWeight (w : Float) : Prop := w.isFinite = true ∧ 0 ≤ w

theorem isNaN_of_isFinite {x : Float} (h : x.isFinite = true) : x.isNaN = false :=
  (isFinite_iff.mp h).1

theorem not_lt_zero {x : Float} (h : x.isFinite = true) : ¬ x < 0 ↔ 0 ≤ x :=
  not_lt_iff (isNaN_of_isFinite h) isNaN_zero

namespace HazardTable

theorem requireWeight_eq_ok {name : String} {w : Float} :
    requireWeight name w = .ok () ↔ AdmissibleWeight w := by
  rw [requireWeight, ite_error_eq_ok, ite_error_eq_ok, AdmissibleWeight]
  simp only [Bool.not_eq_true', Bool.not_eq_false, and_true]
  exact and_congr_right not_lt_zero

theorem validate_eq_ok {t : HazardTable} :
    t.validate = .ok () ↔ ∀ e ∈ t.entries, AdmissibleWeight e.2 := by
  rw [validate, forM_eq_ok]
  simp only [requireWeight_eq_ok]

theorem admissible_defaultWeight : AdmissibleWeight defaultWeight :=
  ⟨rfl, zero_le_iff.mpr ⟨isNaN_one, by rw [defaultWeight, value_one]; exact zero_le_one⟩⟩

theorem weight_admissible {t : HazardTable} (h : t.validate = .ok ()) (name : String) :
    AdmissibleWeight (t.weight name) := by
  rw [weight, find?]
  cases hlookup : t.entries.lookup name with
  | none => exact admissible_defaultWeight
  | some w =>
      rw [Option.getD_some]
      exact validate_eq_ok.mp h (name, w) (mem_of_lookup hlookup)

end HazardTable

theorem Tolerances.validate_eq_ok {t : Tolerances} :
    t.validate = .ok () ↔ t.mass.isFinite = true ∧ t.energy.isFinite = true ∧ 0 ≤ t.mass := by
  rw [validate, ite_error_eq_ok, ite_error_eq_ok, ite_error_eq_ok]
  simp only [Bool.not_eq_true', Bool.not_eq_false, and_true]
  exact and_congr_right fun h => and_congr_right fun _ => not_lt_zero h

theorem Contaminant.mem_all (c : Contaminant) : c ∈ all := by
  cases c <;> decide

theorem Panel.requirePositive_eq_ok {p : Panel Float} :
    p.requirePositive = .ok () ↔ ∀ c, 0 < p.get c := by
  rw [requirePositive, forM_eq_ok]
  simp only [ite_eq_ok, gt_iff_lt, Contaminant.mem_all, true_implies]

namespace Settings

structure Valid (s : Settings) : Prop where
  window : 0 < s.windowSeconds
  weights : ∀ name, AdmissibleWeight (s.hazardWeights.weight name)
  tolerances : s.tolerances.mass.isFinite = true ∧ s.tolerances.energy.isFinite = true ∧
    0 ≤ s.tolerances.mass
  thresholds : ∀ c, 0 < s.thresholds.get c
  stress : 0 ≤ s.site.bioStress ∧ s.site.bioStress ≤ 1
  previous : ∀ p, s.previousPotential = some p → p.isFinite = true

theorem requirePrevious_eq_ok {v : Option Float} :
    requirePrevious v = .ok () ↔ ∀ p, v = some p → p.isFinite = true := by
  cases v with
  | none => exact iff_of_true rfl (fun _ => nofun)
  | some p =>
      rw [requirePrevious, ite_eq_ok]
      exact ⟨fun h q hq => by cases hq; exact h, fun h => h p rfl⟩

theorem validate_eq_ok {s : Settings} : s.validate = .ok () ↔
    requireWindow s.windowSeconds = .ok () ∧ s.hazardWeights.validate = .ok () ∧
      s.tolerances.validate = .ok () ∧ s.thresholds.requirePositive = .ok () ∧
      requireStress s.site.bioStress = .ok () ∧ requirePrevious s.previousPotential = .ok () := by
  simp only [validate, seq_eq_ok]

theorem valid_of_validate {s : Settings} (h : s.validate = .ok ()) : s.Valid := by
  obtain ⟨hwindow, hweights, htolerances, hthresholds, hstress, hprevious⟩ := validate_eq_ok.mp h
  exact {
    window := ite_eq_ok.mp hwindow
    weights := HazardTable.weight_admissible hweights
    tolerances := Tolerances.validate_eq_ok.mp htolerances
    thresholds := Panel.requirePositive_eq_ok.mp hthresholds
    stress := ite_eq_ok.mp hstress
    previous := requirePrevious_eq_ok.mp hprevious }

end Settings

end SiteSafety
