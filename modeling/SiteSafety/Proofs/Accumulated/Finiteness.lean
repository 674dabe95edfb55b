import SiteSafety.Event
import SiteSafety.Proofs.Accumulated.Calls
import SiteSafety.Proofs.Float.Bounds

namespace SiteSafety.Accumulated

open FloatValue

variable {s t : Accumulated} {rows : List Measurement}

theorem isFinite_iff : s.isFinite = true ↔ s.mass.isFinite = true ∧ s.risk.isFinite = true :=
  Bool.and_eq_true_iff

theorem isFinite_of_add (h : (s + t).isFinite = true) : s.isFinite = true ∧ t.isFinite = true := by
  obtain ⟨hmass, hrisk⟩ := isFinite_iff.mp h
  obtain ⟨hs, ht⟩ := isFinite_of_isFinite_add hmass
  obtain ⟨hs', ht'⟩ := isFinite_of_isFinite_add hrisk
  exact ⟨isFinite_iff.mpr ⟨hs, hs'⟩, isFinite_iff.mpr ⟨ht, ht'⟩⟩

theorem isFinite_of_run (h : (s.run rows).isFinite = true) :
    s.isFinite = true ∧ ∀ r ∈ rows, (ofRow r).isFinite = true := by
  induction rows generalizing s with
  | nil => exact ⟨h, nofun⟩
  | cons r rows ih =>
      obtain ⟨hstep, hrows⟩ := ih h
      obtain ⟨hs, hr⟩ := isFinite_of_add hstep
      exact ⟨hs, List.forall_mem_cons.mpr ⟨hr, hrows⟩⟩

theorem run_append (s : Accumulated) (rows rows' : List Measurement) :
    s.run (rows ++ rows') = (s.run rows).run rows' := List.foldl_append

theorem isFinite_of_seen {seen : List Measurement} (hseen : seen <+: rows)
    (h : (s.run rows).isFinite = true) : (s.run seen).isFinite = true := by
  obtain ⟨rest, rfl⟩ := hseen
  rw [run_append] at h
  exact (isFinite_of_run h).1

/-- One use of a state: the second is what an operation makes of the first, whatever else it is given,
or what a refused call leaves where the first stood. A sum written back in place is the same sum. A
call that writes over a state without reading it does not use it. -/
inductive Use (s : Accumulated) : Accumulated → Prop
  | step (r : Measurement) : Use s (s.step r)
  | run (rows : List Measurement) : Use s (s.run rows)
  | merge (t : Accumulated) : Use s (s.merge t)
  | mergeInto (t : Accumulated) : Use s (t.merge s)
  | add (t : Accumulated) : Use s (s + t)
  | addTo (t : Accumulated) : Use s (t + s)
  | stepCall {row : Option Measurement} {output : Option Accumulated} {t : Accumulated} :
      stepCall row (some s) output = (.ok, some t) → Use s t
  | stepRefused {row : Option Measurement} {input : Option Accumulated} {t : Accumulated} :
      Accumulated.stepCall row input (some s) = (.err, some t) → Use s t
  | numberStepCall {node : Option BareMeasurement} {output : Option Accumulated} {t : Accumulated} :
      numberStepCall node (some s) output = (.ok, some t) → Use s t
  | numberStepRefused {node : Option BareMeasurement} {input : Option Accumulated}
      {t : Accumulated} : Accumulated.numberStepCall node input (some s) = (.err, some t) → Use s t

theorem isFinite_of_use (h : Use s t) (ht : t.isFinite = true) : s.isFinite = true := by
  cases h with
  | step r => exact (isFinite_of_add ht).1
  | run rows => exact (isFinite_of_run ht).1
  | merge u | add u => exact (isFinite_of_add ht).1
  | mergeInto u | addTo u => exact (isFinite_of_add ht).2
  | stepCall hcall =>
      obtain ⟨r, rfl⟩ := stepCall_eq_ok hcall
      exact (isFinite_of_add ht).1
  | stepRefused hcall => exact stepCall_eq_err hcall ▸ ht
  | numberStepCall hcall =>
      rw [numberStepCall_eq] at hcall
      obtain ⟨r, rfl⟩ := stepCall_eq_ok hcall
      exact (isFinite_of_add ht).1
  | numberStepRefused hcall =>
      rw [numberStepCall_eq] at hcall
      exact stepCall_eq_err hcall ▸ ht

theorem isFinite_of_uses (h : Relation.ReflTransGen Use s t) (ht : t.isFinite = true) :
    s.isFinite = true := by
  induction h with
  | refl => exact ht
  | tail _ huse ih => exact ih (isFinite_of_use huse ht)

theorem mem_ofAccumulation_iff :
    Event.stateNotFinite t ∈ Event.ofAccumulation s rows ↔
      t = s.run rows ∧ (s.run rows).isFinite = false := by
  induction rows generalizing s with
  | nil =>
      rw [Event.ofAccumulation, run, List.foldl_nil]
      cases s.isFinite <;> simp
  | cons r rows ih =>
      rw [Event.ofAccumulation, List.mem_cons, ih]
      simp [run]

/-- A run ends in a finite state exactly if it starts from one and never leaves them, and then no row
adds anything that is not finite. A state that is not finite stays so over every sequence of uses. So a
warning at the end is given exactly if the state is not finite after some of the rows. -/
theorem finiteness_not_regained (s : Accumulated) (rows : List Measurement) :
    ((s.run rows).isFinite = true ↔
      s.isFinite = true ∧ ∀ seen, seen <+: rows → (s.run seen).isFinite = true) ∧
    ((s.run rows).isFinite = true → ∀ r ∈ rows, (ofRow r).isFinite = true) ∧
    (∀ t, s.isFinite = false → Relation.ReflTransGen Use s t → t.isFinite = false) ∧
    ((∃ t, Event.stateNotFinite t ∈ Event.ofAccumulation s rows) ↔
      ∃ seen, seen <+: rows ∧ (s.run seen).isFinite = false) := by
  refine ⟨⟨?_, ?_⟩, fun h => (isFinite_of_run h).2, ?_, ⟨?_, ?_⟩⟩
  · exact fun h => ⟨(isFinite_of_run h).1, fun seen hseen => isFinite_of_seen hseen h⟩
  · exact fun h => h.2 rows (List.prefix_refl rows)
  · intro t hs huses
    rw [← Bool.not_eq_true] at hs ⊢
    exact fun ht => hs (isFinite_of_uses huses ht)
  · rintro ⟨t, ht⟩
    exact ⟨rows, List.prefix_refl rows, (mem_ofAccumulation_iff.mp ht).2⟩
  · rintro ⟨seen, hseen, hinf⟩
    refine ⟨s.run rows, mem_ofAccumulation_iff.mpr ⟨rfl, ?_⟩⟩
    rw [← Bool.not_eq_true] at hinf ⊢
    exact fun h => hinf (isFinite_of_seen hseen h)

def hugeLoad : BareMeasurement := ⟨1e308, 0, 1, 1, 0⟩

def hugeRelief : BareMeasurement := ⟨0, 1e308, 1, 1, 0⟩

/-- The exact sums are zero, but what overflows on the way is not taken back. -/
theorem finiteness_not_regained_overflow :
    (∀ r ∈ [hugeLoad.row, hugeRelief.row], (ofRow r).isFinite = true) ∧
      (zero.run [hugeLoad.row, hugeLoad.row]).isFinite = false ∧
      ((zero.run [hugeLoad.row, hugeLoad.row]).run [hugeRelief.row, hugeRelief.row]).isFinite =
        false := by
  have hinf : (zero.run [hugeLoad.row, hugeLoad.row]).isFinite = false := by decide +kernel
  obtain ⟨-, -, hkept, -⟩ := finiteness_not_regained (zero.run [hugeLoad.row, hugeLoad.row]) []
  exact ⟨by decide +kernel, hinf, hkept _ hinf (.single (.run _))⟩

end SiteSafety.Accumulated
