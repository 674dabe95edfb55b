import SiteSafety.Proofs.Accumulated.Grouping
import SiteSafety.Proofs.Certification.Cycle
import SiteSafety.Proofs.Certification.Mean
import SiteSafety.Proofs.Float.FiniteOrder

namespace SiteSafety

open FloatValue Accumulated

/-- The same row with an outlet that is no lower. -/
def Measurement.Dirtier (r r' : Measurement) : Prop :=
  ∃ outlet, r.outlet ≤ outlet ∧ r' = { r with outlet := outlet }

variable {r r' : Measurement} {rows rows' : List Measurement}

theorem Measurement.Dirtier.ratio (h : r.Dirtier r') : LeFinite r'.ratio r.ratio := by
  obtain ⟨outlet, hle, rfl⟩ := h
  rw [Measurement.ratio, Measurement.ratio, removalRatio, removalRatio]
  by_cases hreference : r.reference > 0
  · rw [if_pos hreference, if_pos hreference]
    exact (LeFinite.sub_left r.inlet (.of_le hle)).div_right hreference
  · rw [if_neg hreference, if_neg hreference]
    exact .refl 0

theorem Measurement.Dirtier.flow (h : r.Dirtier r') : r'.flow = r.flow := by
  obtain ⟨outlet, -, rfl⟩ := h
  rfl

theorem Measurement.Dirtier.mass (h : r.Dirtier r') (hflow : 0 ≤ r.flow) :
    LeFinite (ofRow r').mass (ofRow r).mass := by
  have hmass : (ofRow r').mass = r'.ratio * r'.flow := rfl
  rw [hmass, h.flow]
  exact h.ratio.mul_right fun _ => hflow

theorem Measurement.Dirtier.kn {weights : HazardTable} {window : Float} (h : r.Dirtier r')
    (hflow : 0 ≤ r.flow) (hweights : weights.validate = .ok ()) (hwindow : 0 < window) :
    LeFinite (Impact.ofRow weights window r').kn (Impact.ofRow weights window r).kn := by
  have hwindow' : 0 ≤ window := by
    obtain ⟨hnan, hpos⟩ := zero_lt_iff.mp hwindow
    exact zero_le_iff.mpr ⟨hnan, hpos.le⟩
  have hweight := (HazardTable.weight_admissible hweights r.contaminant).2
  have hratio := h.ratio
  obtain ⟨outlet, -, rfl⟩ := h
  exact (hratio.mul_left hweight).mul_right (mul_nonneg_of_isFinite hflow hwindow')

theorem leFinite_mean {xs ys : List Float} (h : List.Forall₂ LeFinite xs ys) :
    LeFinite (mean xs) (mean ys) := by
  rcases Nat.eq_zero_or_pos xs.length with hzero | hpos
  · have hxs := List.eq_nil_of_length_eq_zero hzero
    have hys := List.eq_nil_of_length_eq_zero (h.length_eq.symm.trans hzero)
    rw [hxs, hys]
    exact .refl _
  · rw [mean_of_length_pos hpos, mean_of_length_pos (h.length_eq ▸ hpos), ← h.length_eq]
    exact (LeFinite.foldl_add h (.refl 0)).div_right (zero_lt_ofNat hpos)

theorem forall₂_terms {f : Measurement → Float} (h : List.Forall₂ Measurement.Dirtier rows rows')
    (hflow : ∀ r ∈ rows, 0 ≤ r.flow)
    (hf : ∀ r r', r.Dirtier r' → 0 ≤ r.flow → LeFinite (f r') (f r)) :
    List.Forall₂ LeFinite (rows'.map f) (rows.map f) := by
  induction h with
  | nil => exact .nil
  | @cons r r' rows rows' hr _ ih =>
      obtain ⟨hfirst, hrest⟩ := List.forall_mem_cons.mp hflow
      exact .cons (hf r r' hr hfirst) (ih hrest)

theorem forall₂_outletsOf (h : List.Forall₂ Measurement.Dirtier rows rows') (k : Contaminant) :
    List.Forall₂ LeFinite (outletsOf rows k) (outletsOf rows' k) := by
  unfold outletsOf
  induction h with
  | nil => exact .nil
  | @cons r r' rows rows' hr _ ih =>
      obtain ⟨outlet, hle, rfl⟩ := hr
      have htracked : ({ r with outlet := outlet } : Measurement).tracked? = r.tracked? := rfl
      rw [List.filter_cons, List.filter_cons, htracked]
      split
      · exact .cons (.of_le hle) ih
      · exact ih

/-- Higher outlets never look better. Whatever the numbers in the rows are, as long as no flow is
negative, and whatever weights and window are accepted: no impact, no total of impacts and no
accumulated state comes out higher, and no mean outlet lower, where both are finite. -/
theorem dirtier_not_better (h : List.Forall₂ Measurement.Dirtier rows rows')
    (hflow : ∀ r ∈ rows, 0 ≤ r.flow) :
    (∀ (weights : HazardTable) (window : Float), weights.validate = .ok () → 0 < window →
      ∃ impacts impacts', Impact.ofRows weights window rows = .ok impacts ∧
        Impact.ofRows weights window rows' = .ok impacts' ∧
        List.Forall₂ LeFinite (impacts'.map (·.kn)) (impacts.map (·.kn)) ∧
        LeFinite (Impact.total impacts') (Impact.total impacts)) ∧
    (∀ s : Accumulated, LeFinite (s.run rows').mass (s.run rows).mass ∧
      LeFinite (s.run rows').risk (s.run rows).risk) ∧
    ∀ k, LeFinite ((meanOutlets rows).get k) ((meanOutlets rows').get k) := by
  refine ⟨?_, ?_, ?_⟩
  · intro weights window hweights hwindow
    have hwindow' : requireWindow window = .ok () := if_pos hwindow
    have hkn := forall₂_terms h hflow fun r r' hr hflow => hr.kn hflow hweights hwindow
    refine ⟨_, _, Impact.ofRows_eq hwindow' hweights rows, Impact.ofRows_eq hwindow' hweights rows',
      ?_, ?_⟩
    · rw [List.map_map, List.map_map]
      exact hkn
    · rw [Impact.total_eq, Impact.total_eq, List.map_map, List.map_map]
      exact LeFinite.foldl_add hkn (.refl _)
  · intro s
    constructor
    · rw [run_mass, run_mass]
      exact LeFinite.foldl_add (forall₂_terms h hflow fun r r' hr => hr.mass) (.refl _)
    · rw [run_risk, run_risk]
      exact LeFinite.foldl_add (forall₂_terms h hflow fun r r' hr _ => hr.ratio) (.refl _)
  · intro k
    rw [meanOutlets_get, meanOutlets_get]
    exact leFinite_mean (forall₂_outletsOf h k)

def cleanRows : List Measurement :=
  [ { Measurement.plain .tp 0.02 with inlet := 0.25, flow := 2 },
    { Measurement.plain .tp 0.04 with flow := 3, reference := 0 } ]

def dirtyRows : List Measurement :=
  [ { Measurement.plain .tp 0.125 with inlet := 0.25, flow := 2 },
    { Measurement.plain .tp 0.5 with flow := 3, reference := 0 } ]

theorem dirtier_not_better_rows :
    List.Forall₂ Measurement.Dirtier cleanRows dirtyRows ∧ (∀ r ∈ cleanRows, 0 ≤ r.flow) ∧
      (∃ impacts impacts', Impact.ofRows .standard 60 cleanRows = .ok impacts ∧
        Impact.ofRows .standard 60 dirtyRows = .ok impacts' ∧
        Impact.total impacts' ≤ Impact.total impacts) ∧
      (zero.run dirtyRows).mass ≤ (zero.run cleanRows).mass ∧ (zero.run dirtyRows).mass = 0.25 ∧
      (meanOutlets cleanRows).tp ≤ (meanOutlets dirtyRows).tp := by
  have hdirtier : List.Forall₂ Measurement.Dirtier cleanRows dirtyRows :=
    .cons ⟨0.125, by decide +kernel, rfl⟩ (.cons ⟨0.5, by decide +kernel, rfl⟩ .nil)
  have hflow : ∀ r ∈ cleanRows, 0 ≤ r.flow := by decide +kernel
  have hclean : (Impact.ofRows .standard 60 cleanRows).toOption.all
      (fun impacts => (Impact.total impacts).isFinite) = true := by
    decide +kernel
  have hdirty : (Impact.ofRows .standard 60 dirtyRows).toOption.all
      (fun impacts => (Impact.total impacts).isFinite) = true := by
    decide +kernel
  obtain ⟨hkn, hstate, hmean⟩ := dirtier_not_better hdirtier hflow
  obtain ⟨impacts, impacts', h, h', -, htotal⟩ := hkn .standard 60 (by decide +kernel) (by decide +kernel)
  rw [h] at hclean
  rw [h'] at hdirty
  exact ⟨hdirtier, hflow, ⟨impacts, impacts', h, h', htotal hdirty hclean⟩,
    (hstate zero).1 (by decide +kernel) (by decide +kernel), by decide +kernel,
    hmean .tp (by decide +kernel) (by decide +kernel)⟩

end SiteSafety
