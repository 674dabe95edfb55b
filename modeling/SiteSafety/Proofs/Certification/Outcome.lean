import SiteSafety.Proofs.Certification.Cycle

namespace SiteSafety

open FloatValue

namespace Certification

theorem not_gate (rows : List Measurement) (s : Settings) (cause : NegativeWeight) :
    ofRows rows s ≠ .error (.gate cause) := by
  intro hgate
  cases h : s.validate with
  | error e =>
      rw [ofRows_of_invalid h] at hgate
      cases hgate
  | ok u =>
      rw [ofRows_of_valid h] at hgate
      split at hgate
      · cases hgate
      · cases hgate

end Certification

theorem mem_of_mem_firstRows {seen : List String} {rows : List Measurement} {r : Measurement}
    (h : r ∈ firstRows seen rows) : r ∈ rows := by
  induction rows generalizing seen with
  | nil => exact h
  | cons a rows ih =>
      rw [firstRows] at h
      split at h
      · exact List.mem_cons_of_mem a (ih h)
      · rcases List.mem_cons.mp h with rfl | h
        · exact List.mem_cons_self
        · exact List.mem_cons_of_mem a (ih h)

theorem totalFlow_nonneg {rows : List Measurement} (h : ∀ r ∈ rows, 0 ≤ r.flow) :
    0 ≤ totalFlow rows := by
  have hzero : (0 : Float) ≤ -0.0 := by decide +kernel
  exact foldl_add_nonneg (fun r hr => h r (mem_of_mem_firstRows hr)) hzero

namespace Certification

/-- How a cycle ends, exactly. Settings that are refused are refused with their own cause. Past
them a flow that is negative or a NaN is the only refusal, and neither the gate of the weights nor a
corridor ever is one. -/
theorem ofRows_outcome (rows : List Measurement) (s : Settings) :
    (∀ e, s.validate = .error e → ofRows rows s = .error (.settings e)) ∧
    (s.validate = .ok () →
      (¬ 0 ≤ totalFlow rows →
        ofRows rows s = .error (.settings (.negativeFlow (totalFlow rows)))) ∧
      (0 ≤ totalFlow rows → ∃ c, ofRows rows s = .ok c) ∧
      (∀ e, ofRows rows s = .error e → e = .settings (.negativeFlow (totalFlow rows))) ∧
      ((∀ r ∈ rows, 0 ≤ r.flow) → ∃ c, ofRows rows s = .ok c)) ∧
    ∀ cause, ofRows rows s ≠ .error (.gate cause) := by
  refine ⟨?_, ?_, not_gate rows s⟩
  · intro e h
    exact ofRows_of_invalid h rows
  · intro h
    have hok (hflow : 0 ≤ totalFlow rows) : ofRows rows s = .ok (computed rows s) :=
      (ofRows_of_valid h rows).trans (if_pos hflow)
    have herror (hflow : ¬ 0 ≤ totalFlow rows) :
        ofRows rows s = .error (.settings (.negativeFlow (totalFlow rows))) :=
      (ofRows_of_valid h rows).trans (if_neg hflow)
    refine ⟨herror, ?_, ?_, ?_⟩
    · intro hflow
      exact ⟨_, hok hflow⟩
    · intro e he
      by_cases hflow : 0 ≤ totalFlow rows
      · rw [hok hflow] at he
        cases he
      · rw [herror hflow] at he
        cases he
        rfl
    · intro hflows
      exact ⟨_, hok (totalFlow_nonneg hflows)⟩

theorem ofRows_outcome_standard :
    (∃ c, ofRows [] .standard = .ok c) ∧
    (∃ c, ofRows [{ Measurement.plain .tp 0.05 with flow := 1 / 0 }] .standard = .ok c) ∧
    ofRows [{ Measurement.plain .tp 0.05 with flow := -1 }] .standard =
      .error (.settings (.negativeFlow (-1))) := by
  have hvalid : Settings.standard.validate = .ok () := by decide +kernel
  have hneg : totalFlow [{ Measurement.plain .tp 0.05 with flow := -1 }] = -1 := by decide +kernel
  refine ⟨?_, ?_, ?_⟩
  · exact ((ofRows_outcome [] .standard).2.1 hvalid).2.1 (by decide +kernel)
  · exact ((ofRows_outcome _ .standard).2.1 hvalid).2.1 (by decide +kernel)
  · have h := ((ofRows_outcome [{ Measurement.plain .tp 0.05 with flow := -1 }] .standard).2.1
      hvalid).1 (by decide +kernel)
    rwa [hneg] at h

end Certification

end SiteSafety
