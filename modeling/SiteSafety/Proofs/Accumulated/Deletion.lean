import SiteSafety.Proofs.Accumulated.Calls
import SiteSafety.Proofs.Float.Alike

namespace SiteSafety.Accumulated

open FloatValue

/-- Equal but for the signs of zeros, with NaNs in the same fields. -/
structure Alike (s t : Accumulated) : Prop where
  mass : FloatValue.Alike s.mass t.mass
  risk : FloatValue.Alike s.risk t.risk

structure NoNegativeZero (s : Accumulated) : Prop where
  mass : s.mass ≠ -0
  risk : s.risk ≠ -0

namespace Request

def row? : Request → Option Measurement
  | step row => some row
  | call (some row) true true => some row
  | numberCall (some node) true true => some node.row
  | _ => none

def Unreferenced (q : Request) : Prop := ∃ r, q.row? = some r ∧ r.Unreferenced

end Request

variable {s t u : Accumulated} {r : Measurement} {rows rows' : List Measurement}
  {requests requests' : List Request}

theorem Alike.refl (s : Accumulated) : s.Alike s := ⟨.refl _, .refl _⟩

theorem Alike.trans (h : s.Alike t) (h' : t.Alike u) : s.Alike u :=
  ⟨h.mass.trans h'.mass, h.risk.trans h'.risk⟩

theorem Alike.step (h : s.Alike t) (r : Measurement) : (s.step r).Alike (t.step r) :=
  ⟨h.mass.add (.refl _), h.risk.add (.refl _)⟩

theorem noNegativeZero_zero : zero.NoNegativeZero := ⟨by decide, by decide⟩

theorem NoNegativeZero.step (h : s.NoNegativeZero) (r : Measurement) : (s.step r).NoNegativeZero :=
  ⟨add_ne_neg_zero h.mass, add_ne_neg_zero h.risk⟩

theorem ofRow_of_unreferenced (h : r.Unreferenced) :
    FloatValue.Alike (ofRow r).mass 0 ∧ FloatValue.Alike (ofRow r).risk 0 := by
  have hrisk : (ofRow r).risk = 0 := h.ratio_eq
  have hmass : (ofRow r).mass = (ofRow r).risk * r.flow := rfl
  rw [hmass, hrisk]
  exact ⟨.mul_of_zero rfl h.2 (.inl (.refl 0)), .refl 0⟩

theorem step_alike (s : Accumulated) (h : r.Unreferenced) : (s.step r).Alike s := by
  obtain ⟨hmass, hrisk⟩ := ofRow_of_unreferenced h
  exact ⟨.add_of_zero s.mass hmass, .add_of_zero s.risk hrisk⟩

theorem step_eq (hs : s.NoNegativeZero) (h : r.Unreferenced) : s.step r = s := by
  obtain ⟨hmass, hrisk⟩ := ofRow_of_unreferenced h
  obtain ⟨mass, risk⟩ := s
  exact congrArg₂ Accumulated.mk (add_eq_of_zero hs.mass hmass) (add_eq_of_zero hs.risk hrisk)

theorem run_alike (h : Pruned Measurement.Unreferenced rows rows') (s : Accumulated) :
    (s.run rows).Alike (s.run rows') :=
  h.foldl_rel (fun r _ _ hst => hst.step r) (fun _ s _ hr hst => (step_alike s hr).trans hst)
    (.refl s)

theorem run_eq (h : Pruned Measurement.Unreferenced rows rows') (hs : s.NoNegativeZero) :
    s.run rows = s.run rows' := by
  -- a deleted row takes no step, but only next to states without a negative zero, so that is kept along
  refine (h.foldl_rel (R := fun s t => s = t ∧ s.NoNegativeZero) ?_ ?_ ⟨rfl, hs⟩).1
  · rintro r s _ ⟨rfl, hs⟩
    exact ⟨rfl, hs.step r⟩
  · rintro r s _ hr ⟨rfl, hs⟩
    rw [step_eq hs hr]
    exact ⟨rfl, hs⟩

theorem perform_state (s : Accumulated) (q : Request) :
    (q.perform s).2 = (q.row?.map s.step).getD s := by
  cases q with
  | step row => rfl
  | call row input output | numberCall row input output =>
      cases row <;> cases input <;> cases output <;> rfl

theorem session_state (s : Accumulated) (requests : List Request) :
    (session s requests).2 = s.run (requests.filterMap Request.row?) := by
  induction requests generalizing s with
  | nil => rfl
  | cons q requests ih =>
      rw [session_cons, ih, perform_state, List.filterMap_cons]
      cases q.row? <;> rfl

theorem pruned_rows (h : Pruned Request.Unreferenced requests requests') :
    Pruned Measurement.Unreferenced (requests.filterMap Request.row?)
      (requests'.filterMap Request.row?) := by
  refine h.filterMap ?_
  rintro q ⟨r, hq, hr⟩ r' hq'
  cases hq.symm.trans hq'
  exact hr

/-- Deleting rows without a reference, as many as one likes and wherever they are, does not change the
state of a run from zero, and that of any other run by no more than the signs of zeros. It is the same
with requests for their steps among others, and with a call for one of them. -/
theorem unreferenced_of_no_account :
    (∀ rows rows', Pruned Measurement.Unreferenced rows rows' →
      zero.run rows = zero.run rows' ∧ ∀ s : Accumulated, (s.run rows).Alike (s.run rows')) ∧
    (∀ requests requests', Pruned Request.Unreferenced requests requests' →
      (session zero requests).2 = (session zero requests').2 ∧
        ∀ s, (session s requests).2.Alike (session s requests').2) ∧
    ∀ (n : BareMeasurement) (s out : Accumulated), n.row.Unreferenced →
      ∃ t, numberStepCall (some n) (some s) (some out) = (.ok, some t) ∧ t.Alike s ∧
        (s.NoNegativeZero → t = s) := by
  refine ⟨fun rows rows' h => ⟨run_eq h noNegativeZero_zero, run_alike h⟩, ?_, ?_⟩
  · intro requests requests' h
    simp only [session_state]
    exact ⟨run_eq (pruned_rows h) noNegativeZero_zero, run_alike (pruned_rows h)⟩
  · intro n s out hn
    exact ⟨s.step n.row, rfl, step_alike s hn, fun hs => step_eq hs hn⟩

/-- An inlet that is a NaN, an infinite outlet, and a flow back. -/
def unlimitedLoad : BareMeasurement := ⟨0 / 0, 1 / 0, -2, -1, 0⟩

theorem unlimitedLoad_unreferenced : unlimitedLoad.row.Unreferenced := ⟨by decide, by decide⟩

/-- The negative zeros that such a row does change. -/
theorem unreferenced_of_no_account_unlimitedLoad :
    unlimitedLoad.row.Unreferenced ∧
      zero.run [unlimitedLoad.row, halvedLoad.row, unlimitedLoad.row] = zero.run [halvedLoad.row] ∧
      (session zero [.numberCall (some unlimitedLoad) true true, .step halvedLoad.row]).2 =
        (session zero [.step halvedLoad.row]).2 ∧
      (run ⟨-0, -0⟩ [unlimitedLoad.row]).Alike ⟨-0, -0⟩ ∧ run ⟨-0, -0⟩ [unlimitedLoad.row] = ⟨-0, 0⟩ := by
  have hload := unlimitedLoad_unreferenced
  obtain ⟨hrows, hrequests, -⟩ := unreferenced_of_no_account
  exact ⟨hload, (hrows _ _ (.delete hload (.keep _ (.delete hload .nil)))).1,
    (hrequests _ _ (.delete ⟨_, rfl, hload⟩ (.keep _ .nil))).1,
    (hrows _ _ (.delete hload .nil)).2 _, by decide +kernel⟩

end SiteSafety.Accumulated
