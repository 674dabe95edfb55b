import SiteSafety.Accumulated
import SiteSafety.Proofs.Rows
import SiteSafety.Proofs.Float.Whole

namespace SiteSafety.Accumulated

open FloatValue Unpacked

def masses (rows : List Measurement) : List Float := rows.map fun r => (ofRow r).mass

def risks (rows : List Measurement) : List Float := rows.map fun r => (ofRow r).risk

/-- In both fields the contributions are whole numbers, and their magnitudes add up to `2 ^ 53` at
most. -/
structure WholeRows (rows : List Measurement) : Prop where
  masses : WholeTerms (masses rows)
  risks : WholeTerms (risks rows)

structure IsTotal (rows : List Measurement) (s : Accumulated) : Prop where
  mass : IsSum (masses rows) s.mass
  risk : IsSum (risks rows) s.risk

/-- How the states of parts, each summed on its own, are merged: in any order, and in any grouping. -/
inductive MergePlan where
  | part (rows : List Measurement)
  | join (left right : MergePlan)

namespace MergePlan

def state : MergePlan → Accumulated
  | part rows => zero.run rows
  | join left right => left.state.merge right.state

def rows : MergePlan → List Measurement
  | part rows => rows
  | join left right => left.rows ++ right.rows

end MergePlan

variable {rows rows' : List Measurement} {s t : Accumulated}

theorem run_mass (s : Accumulated) (rows : List Measurement) :
    (s.run rows).mass = (masses rows).foldl (· + ·) s.mass := by
  induction rows generalizing s with
  | nil => rfl
  | cons r rows ih => exact ih (s.step r)

theorem run_risk (s : Accumulated) (rows : List Measurement) :
    (s.run rows).risk = (risks rows).foldl (· + ·) s.risk := by
  induction rows generalizing s with
  | nil => rfl
  | cons r rows ih => exact ih (s.step r)

theorem masses_append (rows rows' : List Measurement) :
    masses (rows ++ rows') = masses rows ++ masses rows' := List.map_append

theorem risks_append (rows rows' : List Measurement) :
    risks (rows ++ rows') = risks rows ++ risks rows' := List.map_append

namespace WholeRows

theorem masses_append (h : WholeRows (rows ++ rows')) :
    WholeTerms (Accumulated.masses rows ++ Accumulated.masses rows') :=
  Accumulated.masses_append rows rows' ▸ h.masses

theorem risks_append (h : WholeRows (rows ++ rows')) :
    WholeTerms (Accumulated.risks rows ++ Accumulated.risks rows') :=
  Accumulated.risks_append rows rows' ▸ h.risks

theorem of_append (h : WholeRows (rows ++ rows')) : WholeRows rows ∧ WholeRows rows' := by
  obtain ⟨hmass, hmass'⟩ := h.masses_append.of_append
  obtain ⟨hrisk, hrisk'⟩ := h.risks_append.of_append
  exact ⟨⟨hmass, hrisk⟩, ⟨hmass', hrisk'⟩⟩

theorem perm (h : WholeRows rows) (hperm : rows.Perm rows') : WholeRows rows' :=
  ⟨h.masses.perm (hperm.map _), h.risks.perm (hperm.map _)⟩

end WholeRows

namespace IsTotal

theorem nil : IsTotal [] zero := ⟨.nil, .nil⟩

theorem merge (h : WholeRows (rows ++ rows')) (hs : IsTotal rows s) (ht : IsTotal rows' t) :
    IsTotal (rows ++ rows') (s.merge t) where
  mass := masses_append rows rows' ▸ hs.mass.append h.masses_append ht.mass
  risk := risks_append rows rows' ▸ hs.risk.append h.risks_append ht.risk

theorem step {r : Measurement} (h : WholeRows (rows ++ [r])) (hs : IsTotal rows s) :
    IsTotal (rows ++ [r]) (s.step r) where
  mass := masses_append rows [r] ▸ hs.mass.concat h.masses_append
  risk := risks_append rows [r] ▸ hs.risk.concat h.risks_append

theorem run (h : WholeRows (rows ++ rows')) (hs : IsTotal rows s) :
    IsTotal (rows ++ rows') (s.run rows') := by
  -- each row passes from those to come to those already summed, and the list of all stays
  induction rows' generalizing rows s with
  | nil => rwa [List.append_nil]
  | cons r rows' ih =>
      rw [List.append_cons] at h ⊢
      exact ih h (hs.step h.of_append.1)

theorem perm (h : IsTotal rows s) (hperm : rows.Perm rows') : IsTotal rows' s :=
  ⟨h.mass.perm (hperm.map _), h.risk.perm (hperm.map _)⟩

theorem unique (hs : IsTotal rows s) (ht : IsTotal rows t) : s = t := by
  obtain ⟨_, _⟩ := s
  obtain ⟨_, _⟩ := t
  exact congrArg₂ Accumulated.mk (hs.mass.unique ht.mass) (hs.risk.unique ht.risk)

theorem isFinite (h : IsTotal rows s) : s.isFinite = true :=
  Bool.and_eq_true_iff.mpr ⟨h.mass.isFinite, h.risk.isFinite⟩

end IsTotal

theorem isTotal_run (h : WholeRows rows) : IsTotal rows (zero.run rows) := by
  have hrows : WholeRows ([] ++ rows) := h
  exact IsTotal.nil.run hrows

namespace MergePlan

theorem isTotal (plan : MergePlan) (h : WholeRows plan.rows) : IsTotal plan.rows plan.state := by
  induction plan with
  | part rows => exact isTotal_run h
  | join left right ihLeft ihRight =>
      obtain ⟨hleft, hright⟩ := WholeRows.of_append h
      exact (ihLeft hleft).merge h (ihRight hright)

def inOrder (first : MergePlan) (parts : List (List Measurement)) : MergePlan :=
  parts.foldl (fun plan rows => join plan (part rows)) first

theorem state_inOrder (first : MergePlan) (parts : List (List Measurement)) :
    (inOrder first parts).state = (parts.map zero.run).foldl merge first.state := by
  induction parts generalizing first with
  | nil => rfl
  | cons p parts ih => exact ih (join first (part p))

theorem rows_inOrder (first : MergePlan) (parts : List (List Measurement)) :
    (inOrder first parts).rows = first.rows ++ parts.flatten := by
  induction parts generalizing first with
  | nil => exact (List.append_nil _).symm
  | cons p parts ih =>
      have h := ih (join first (part p))
      rwa [rows, List.append_assoc] at h

end MergePlan

theorem flatten_pieces {fuel length : ℕ} (hfuel : rows.length ≤ fuel) (hlength : 0 < length) :
    (pieces fuel length rows).flatten = rows := by
  -- a piece costs one unit of fuel and takes one row at least, so fuel for all rows is enough
  induction fuel generalizing rows with
  | zero =>
      rw [List.eq_nil_of_length_eq_zero (Nat.le_zero.mp hfuel)]
      rfl
  | succ fuel ih =>
      cases rows with
      | nil => rfl
      | cons r rows =>
          have hrest : ((r :: rows).drop length).length ≤ fuel := by
            rw [List.length_drop]
            omega
          rw [pieces, List.flatten_cons, ih hrest, List.take_append_drop]
          nofun

theorem partitionLength_pos (rows wanted workers : ℕ) : 0 < partitionLength rows wanted workers :=
  Nat.lt_of_lt_of_le Nat.one_pos (Nat.le_max_right _ _)

theorem exists_plan (rows : List Measurement) (wanted workers : ℕ) :
    ∃ plan : MergePlan, plan.rows = rows ∧ plan.state = partitioned rows wanted workers := by
  rw [partitioned]
  split
  · exact ⟨.part rows, rfl, rfl⟩
  · have hpieces := flatten_pieces (le_refl rows.length)
      (partitionLength_pos rows.length wanted workers)
    refine ⟨.inOrder (.part []) _, ?_, MergePlan.state_inOrder (.part []) _⟩
    rw [MergePlan.rows_inOrder, hpieces]
    rfl

theorem MergePlan.state_eq (h : WholeRows rows) (plan : MergePlan) (hperm : plan.rows.Perm rows) :
    plan.state = zero.run rows :=
  ((plan.isTotal (h.perm hperm.symm)).perm hperm).unique (isTotal_run h)

/-- Neither the order of rows that add up without rounding, nor the parts that they are summed in, nor
the order and grouping in which the parts are merged shows in the state. -/
theorem grouping_invisible (h : WholeRows rows) :
    (zero.run rows).isFinite = true ∧
    (∀ rows' : List Measurement, rows'.Perm rows → zero.run rows' = zero.run rows) ∧
    (∀ plan : MergePlan, plan.rows.Perm rows → plan.state = zero.run rows) ∧
    ∀ wanted workers, partitioned rows wanted workers = zero.run rows := by
  refine ⟨(isTotal_run h).isFinite, ?_, MergePlan.state_eq h, ?_⟩
  · exact fun rows' hperm => MergePlan.state_eq h (.part rows') hperm
  · intro wanted workers
    obtain ⟨plan, hrows, hstate⟩ := exists_plan rows wanted workers
    rw [← hstate]
    exact plan.state_eq h (.of_eq hrows)

/-- Contributions of both signs, a negative zero among them, with masses up to the bound. -/
def mixedRows : List Measurement :=
  [ (BareMeasurement.mk 3 0 2251799813685248 1 0).row,
    (BareMeasurement.mk 0 1 2251799813685248 1 0).row,
    (BareMeasurement.mk 5 0 (-1) 0 0).row ]

theorem wholeRows_mixedRows : WholeRows mixedRows := by
  have hmasses : masses mixedRows = [6755399441055744, -2251799813685248, -0] := by decide +kernel
  have hrisks : risks mixedRows = [3, -1, 0] := by decide +kernel
  have hzero : IsWhole 0 ∧ number 0 = (0 : ℤ) := number_of_value rfl (by simp)
  have hneg_zero : IsWhole (-0) ∧ number (-0) = (0 : ℤ) := number_of_value rfl (by simp)
  have hload : (6755399441055744 : Float).toModel.unpack =
      .finite .positive (3 * 2 ^ 51) 0 (by norm_num) := rfl
  have hadded : (-2251799813685248 : Float).toModel.unpack =
      .finite .negative (2 ^ 52) (-1) (by norm_num) := rfl
  have hthree : (3 : Float).toModel.unpack =
      .finite .positive (3 * 2 ^ 51) (-51) (by norm_num) := rfl
  have hminus_one : (-1 : Float).toModel.unpack =
      .finite .negative (2 ^ 52) (-52) (by norm_num) := rfl
  have hload' : IsWhole 6755399441055744 ∧ number 6755399441055744 = (3 * 2 ^ 51 : ℤ) :=
    number_of_unpack hload (by rw [signed]; norm_num)
  have hadded' : IsWhole (-2251799813685248) ∧ number (-2251799813685248) = (-2 ^ 51 : ℤ) :=
    number_of_unpack hadded (by rw [signed]; norm_num)
  have hthree' : IsWhole 3 ∧ number 3 = (3 : ℤ) :=
    number_of_unpack hthree (by rw [signed]; norm_num)
  have hminus_one' : IsWhole (-1) ∧ number (-1) = (-1 : ℤ) :=
    number_of_unpack hminus_one (by rw [signed]; norm_num)
  constructor
  · rw [hmasses]
    exact .of_numbers (.cons hload' (.cons hadded' (.cons hneg_zero .nil))) (by decide)
  · rw [hrisks]
    exact .of_numbers (.cons hthree' (.cons hminus_one' (.cons hzero .nil))) (by decide)

theorem grouping_invisible_mixedRows :
    WholeRows mixedRows ∧ zero.run mixedRows.reverse = zero.run mixedRows ∧
      partitioned mixedRows 1 2 = zero.run mixedRows ∧
      zero.run mixedRows = ⟨4503599627370496, 2⟩ := by
  obtain ⟨-, hperm, -, hpartitioned⟩ := grouping_invisible wholeRows_mixedRows
  exact ⟨wholeRows_mixedRows, hperm _ (List.reverse_perm mixedRows), hpartitioned 1 2,
    by decide +kernel⟩

end SiteSafety.Accumulated
