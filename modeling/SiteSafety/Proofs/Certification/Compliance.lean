import SiteSafety.Proofs.Certification.Cycle
import SiteSafety.Proofs.Certification.Mean
import SiteSafety.Proofs.HazardTable

namespace SiteSafety

open FloatValue

def Compliant (rows : List Measurement) (s : Settings) : Prop :=
  ∀ r ∈ rows, ∀ k, r.tracked? = some k → 0 ≤ r.outlet ∧ r.outlet ≤ s.thresholds.get k

def OutletsUpTo (rows : List Measurement) (k : Contaminant) (x : Float) : Prop :=
  ∀ y ∈ outletsOf rows k, y ≤ x

variable {rows : List Measurement} {s : Settings}

theorem riskOf_eq (rows : List Measurement) (s : Settings) (k : Contaminant) :
    riskOf rows s k = mean (outletsOf rows k) / s.thresholds.get k := by
  rw [riskOf, meanOutlets_get]

theorem Compliant.outlets (h : Compliant rows s) (k : Contaminant) :
    ∀ x ∈ outletsOf rows k, 0 ≤ x ∧ x ≤ s.thresholds.get k := by
  intro x hx
  obtain ⟨r, hr, rfl⟩ := List.mem_map.mp hx
  obtain ⟨hmem, htracked⟩ := List.mem_filter.mp hr
  exact h r hmem k (beq_iff_eq.mp htracked)

/-- Only an infinite limit, or more rows than a word counts, can turn a risk into a NaN. -/
theorem Compliant.risk_nonneg (h : Compliant rows s) {k : Contaminant} (ht : 0 < s.thresholds.get k) :
    0 ≤ riskOf rows s k ∨ (riskOf rows s k).isNaN = true ∧
      ((s.thresholds.get k).isFinite = false ∨ 2 ^ 64 ≤ (outletsOf rows k).length) := by
  have houtlets : ∀ x ∈ outletsOf rows k, 0 ≤ x := fun x hx => (h.outlets k x hx).1
  rw [riskOf_eq]
  cases hnan : (mean (outletsOf rows k) / s.thresholds.get k).isNaN with
  | false =>
      have hmean := mean_nonneg houtlets (isNaN_dividend hnan ht)
      exact .inl (FloatValue.div_nonneg hmean ht hnan)
  | true =>
      refine .inr ⟨rfl, ?_⟩
      rw [or_iff_not_imp_left, Bool.not_eq_false]
      intro hfin
      obtain ⟨-, hbot, htop⟩ := isFinite_iff.mp hfin
      rw [isNaN_div (zero_lt_iff.mp ht).2.ne'] at hnan
      by_contra hlen
      rw [isNaN_mean houtlets (not_le.mp hlen)] at hnan
      simp [hbot, htop] at hnan

theorem Compliant.risk_le (h : Compliant rows s) {k : Contaminant} (ht : 0 < s.thresholds.get k)
    {x : Float} (hx : OutletsUpTo rows k x)
    (hnan : (riskAt (outletsOf rows k).length x (s.thresholds.get k)).isNaN = false) :
    0 ≤ riskOf rows s k ∧
      riskOf rows s k ≤ riskAt (outletsOf rows k).length x (s.thresholds.get k) := by
  rw [riskOf_eq]
  exact share_le_riskAt ht (fun y hy => ⟨(h.outlets k y hy).1, hx y hy⟩) hnan

theorem tracked_plain (k : Contaminant) (x : Float) : (Measurement.plain k x).tracked? = some k :=
  k.ofName?_name

theorem outletsOf_replicate_plain (n : ℕ) (k : Contaminant) (x : Float) :
    outletsOf (List.replicate n (.plain k x)) k = List.replicate n x := by
  have hfilter : (List.replicate n (Measurement.plain k x)).filter (fun r => r.tracked? == some k) =
      List.replicate n (.plain k x) :=
    List.filter_eq_self.mpr fun r hr => by
      rw [List.eq_of_mem_replicate hr, tracked_plain, beq_self_eq_true]
  rw [outletsOf, hfilter, List.map_replicate]
  rfl

theorem compliant_replicate {k : Contaminant} {x : Float} (hx : 0 ≤ x) (hxt : x ≤ s.thresholds.get k)
    (n : ℕ) : Compliant (List.replicate n (.plain k x)) s := by
  intro r hr k' hk'
  rw [List.eq_of_mem_replicate hr, tracked_plain] at hk'
  cases hk'
  rw [List.eq_of_mem_replicate hr]
  exact ⟨hx, hxt⟩

theorem riskOf_replicate (s : Settings) (k : Contaminant) (n : ℕ) (x : Float) :
    riskOf (List.replicate n (.plain k x)) s k = riskAt n x (s.thresholds.get k) := by
  rw [riskOf_eq, outletsOf_replicate_plain, riskAt]

/-- What holds of the risk of one contaminant, whatever the others are, in a window within its limits.
Outlets up to some float, the limit or the largest of them, give no larger risk than as many at that
float. Only the mean is rounded to the wrong side of the limit, never the quotient. -/
structure CompliantRisk (rows : List Measurement) (s : Settings) (k : Contaminant) : Prop where
  outlets : OutletsUpTo rows k (s.thresholds.get k)
  nonneg : 0 ≤ riskOf rows s k ∨ (riskOf rows s k).isNaN = true ∧
    ((s.thresholds.get k).isFinite = false ∨ 2 ^ 64 ≤ (outletsOf rows k).length)
  le_riskAt : ∀ x, OutletsUpTo rows k x →
    (riskAt (outletsOf rows k).length x (s.thresholds.get k)).isNaN = false →
    0 ≤ riskOf rows s k ∧
      riskOf rows s k ≤ riskAt (outletsOf rows k).length x (s.thresholds.get k)
  inside : ∀ x, OutletsUpTo rows k x →
    riskAt (outletsOf rows k).length x (s.thresholds.get k) ≤ 1 →
    0 ≤ riskOf rows s k ∧ riskOf rows s k ≤ 1
  inside_iff : (0 ≤ riskOf rows s k ∧ riskOf rows s k ≤ 1) ↔
    (riskOf rows s k).isNaN = false ∧ mean (outletsOf rows k) ≤ s.thresholds.get k

theorem Compliant.risk (h : Compliant rows s) {k : Contaminant} (ht : 0 < s.thresholds.get k) :
    CompliantRisk rows s k where
  outlets := fun x hx => (h.outlets k x hx).2
  nonneg := h.risk_nonneg ht
  le_riskAt := fun _ hx hnan => h.risk_le ht hx hnan
  inside := by
    intro x hx hle
    obtain ⟨hlo, hhi⟩ := h.risk_le ht hx (le_one_iff.mp hle).1
    exact ⟨hlo, FloatValue.le_trans hhi hle⟩
  inside_iff := by
    rw [riskOf_eq]
    exact share_inside_iff ht fun x hx => (h.outlets k x hx).1

namespace Certification

theorem Completes.breach_at {c : Certification} (h : Completes rows s c) {i : ℕ}
    {risk rmin rmax : Float} (hbreach : c.stability = .corridorBreach i risk rmin rmax) :
    ∃ k, Contaminant.all[i]? = some k ∧ risk = riskOf rows s k ∧ rmin = 0 ∧ rmax = 1 ∧
      ¬ (0 ≤ riskOf rows s k ∧ riskOf rows s k ≤ 1) := by
  rw [h.stability, stabilityOf, h.coordinates] at hbreach
  obtain ⟨x, hx, rfl, rfl, rfl⟩ := StabilityVerdict.outside_of_corridorBreach hbreach
  have hplace := hx.place
  rw [List.getElem?_map, Option.map_eq_some_iff] at hplace
  obtain ⟨k, hk, rfl⟩ := hplace
  refine ⟨k, hk, rfl, rfl, rfl, fun hin => ?_⟩
  exact Bool.false_ne_true (hx.holds.symm.trans (isInside_coordinateOf.mpr hin))

/-- A window within its limits has no negative risk, and none above the risk of as many rows at a float
that no outlet exceeds, so that a breach of the corridor is one of a contaminant for which that risk is
not within the corridor either. It is within where the multiples of the float are floats, and for as many
rows at the float it is the risk itself. -/
theorem compliant_inside {c : Certification} (h : ofRows rows s = .ok c)
    (hcompliant : Compliant rows s) :
    c.coordinates = Contaminant.all.map (coordinateOf rows s) ∧
    (∀ k, CompliantRisk rows s k) ∧
    (∀ i risk rmin rmax, c.stability = .corridorBreach i risk rmin rmax →
      ∃ k, Contaminant.all[i]? = some k ∧ risk = riskOf rows s k ∧ rmin = 0 ∧ rmax = 1 ∧
        ¬ (0 ≤ riskOf rows s k ∧ riskOf rows s k ≤ 1) ∧
        ∀ x, OutletsUpTo rows k x →
          ¬ riskAt (outletsOf rows k).length x (s.thresholds.get k) ≤ 1) ∧
    (∀ k n x, 0 ≤ x → x ≤ s.thresholds.get k → ExactMultiples n x →
      riskAt n x (s.thresholds.get k) ≤ 1) ∧
    ∀ k n x, 0 ≤ x → x ≤ s.thresholds.get k → Compliant (List.replicate n (.plain k x)) s ∧
      riskOf (List.replicate n (.plain k x)) s k = riskAt n x (s.thresholds.get k) := by
  have hc := completes_of_ofRows h
  have ht := hc.valid.thresholds
  have hrisk (k : Contaminant) : CompliantRisk rows s k := hcompliant.risk (ht k)
  refine ⟨hc.coordinates, hrisk, ?_, fun k n x hx hxt => riskAt_of_exact (ht k) hx hxt,
    fun k n x hx hxt => ⟨compliant_replicate hx hxt n, riskOf_replicate s k n x⟩⟩
  intro i risk rmin rmax hbreach
  obtain ⟨k, hk, hrisk', hmin, hmax, hout⟩ := hc.breach_at hbreach
  exact ⟨k, hk, hrisk', hmin, hmax, hout, fun x hx hle => hout ((hrisk k).inside x hx hle)⟩

/-- As many rows at the limit would be outside. -/
theorem compliant_inside_thrice :
    ¬ riskAt 3 0.1 0.1 ≤ 1 ∧ Compliant (List.replicate 3 (.plain .tp 0.09)) .standard ∧
      ∃ c, ofRows (List.replicate 3 (.plain .tp 0.09)) .standard = .ok c ∧
        (∀ x ∈ c.coordinates, 0 ≤ x.risk ∧ x.risk ≤ 1) ∧
        ∀ i risk rmin rmax, c.stability ≠ .corridorBreach i risk rmin rmax := by
  have hcompliant : Compliant (List.replicate 3 (.plain .tp 0.09)) .standard :=
    compliant_replicate (by decide +kernel) (by decide +kernel) 3
  have hok : (ofRows (List.replicate 3 (.plain .tp 0.09)) .standard).toOption.isSome = true := by
    decide +kernel
  refine ⟨by decide +kernel, hcompliant, ?_⟩
  cases h : ofRows (List.replicate 3 (.plain .tp 0.09)) .standard with
  | error e =>
      rw [h] at hok
      cases hok
  | ok c =>
      obtain ⟨hcoordinates, hrisk, hbreach, -⟩ := compliant_inside h hcompliant
      have hupTo : ∀ k, OutletsUpTo (List.replicate 3 (.plain .tp 0.09)) k 0.09 := by
        intro k
        cases k <;> unfold OutletsUpTo <;> decide +kernel
      have hin : ∀ k, 0 ≤ riskOf (List.replicate 3 (.plain .tp 0.09)) .standard k ∧
          riskOf (List.replicate 3 (.plain .tp 0.09)) .standard k ≤ 1 := by
        intro k
        refine (hrisk k).inside 0.09 (hupTo k) ?_
        cases k <;> decide +kernel
      refine ⟨c, rfl, ?_, fun i risk rmin rmax hv => ?_⟩
      · rw [hcoordinates, forall_coordinates]
        exact hin
      · obtain ⟨k, -, -, -, -, hout, -⟩ := hbreach i risk rmin rmax hv
        exact hout (hin k)

/-- Three times the limit of total phosphorus, added up, is rounded upwards, and three rows at that
limit are outside the corridor. -/
theorem compliant_breach :
    ∃ c, ofRows (List.replicate 3 (.plain .tp 0.1)) .standard = .ok c ∧
      Compliant (List.replicate 3 (.plain .tp 0.1)) .standard ∧
      (∃ x ∈ c.coordinates, ¬ x.risk ≤ 1) ∧
      c.stability = .corridorBreach 2 (.ofBits 0x3FF0000000000001) 0 1 := by
  have hbreach : (ofRows (List.replicate 3 (.plain .tp 0.1)) .standard).toOption.map (·.stability) =
      some (.corridorBreach 2 (.ofBits 0x3FF0000000000001) 0 1) := by
    decide +kernel
  cases h : ofRows (List.replicate 3 (.plain .tp 0.1)) .standard with
  | error e =>
      rw [h] at hbreach
      cases hbreach
  | ok c =>
      rw [h] at hbreach
      have hcompliant : Compliant (List.replicate 3 (.plain .tp 0.1)) .standard :=
        compliant_replicate (by decide +kernel) (by decide +kernel) 3
      have hmem : coordinateOf (List.replicate 3 (.plain .tp 0.1)) .standard .tp ∈ c.coordinates := by
        rw [(completes_of_ofRows h).coordinates]
        exact List.mem_map_of_mem (Contaminant.mem_all .tp)
      have hover : ¬ riskOf (List.replicate 3 (.plain .tp 0.1)) .standard .tp ≤ 1 := by
        decide +kernel
      exact ⟨c, rfl, hcompliant, ⟨_, hmem, hover⟩, Option.some.inj hbreach⟩

end Certification

end SiteSafety
