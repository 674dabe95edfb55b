import SiteSafety.Proofs.Accumulated.Finiteness
import SiteSafety.Proofs.Accumulated.Grouping
import SiteSafety.Proofs.Certification.Acceptance
import SiteSafety.Proofs.Certification.Audit
import SiteSafety.Proofs.Certification.Compliance
import SiteSafety.Proofs.Float.FiniteOrder
import SiteSafety.Proofs.Float.Magnitude

namespace SiteSafety

open FloatValue Accumulated Rounding
open Binary64 (toFloat)

/-- Exponents of powers of two that the numbers of the rows and the settings stay within. -/
structure Scale where
  concentration : ℕ
  limit : ℕ
  flow : ℕ
  weight : ℕ
  window : ℕ

namespace Scale

def ratio (m : Scale) : ℕ := m.concentration + 1 + m.limit

def impact (m : Scale) : ℕ := m.weight + m.ratio + (m.flow + m.window)

/-- The numbers stay within the scale, and the scale leaves room for the sums over all rows. A reference
that is not positive is not used, and may be anything. -/
structure Covers (m : Scale) (rows : List Measurement) (s : Settings) : Prop where
  inlet : ∀ r ∈ rows, Bounded (2 ^ m.concentration) r.inlet
  outlet : ∀ r ∈ rows, Bounded (2 ^ m.concentration) r.outlet
  reference : ∀ r ∈ rows, 0 < r.reference → (((2 ^ m.limit)⁻¹ : ℝ) : EReal) ≤ value r.reference
  flow : ∀ r ∈ rows, Bounded (2 ^ m.flow) r.flow
  weight : ∀ r ∈ rows, Bounded (2 ^ m.weight) (s.hazardWeights.weight r.contaminant)
  window : Bounded (2 ^ m.window) s.windowSeconds
  count : rows.length ≤ 2 ^ 53
  room : m.impact + 53 < 1024

namespace Covers

variable {m : Scale} {rows : List Measurement} {s : Settings} {r : Measurement}

theorem bounded_ratio (h : m.Covers rows s) (hr : r ∈ rows) : Bounded (2 ^ m.ratio) r.ratio := by
  have hroom := h.room
  rw [impact, ratio] at hroom
  rw [Measurement.ratio, removalRatio]
  by_cases hreference : r.reference > 0
  · have hdouble : (2 ^ m.concentration + 2 ^ m.concentration : ℝ) = 2 ^ (m.concentration + 1) := by
      rw [pow_succ, mul_two]
    have hremoval := (h.inlet r hr).sub (h.outlet r hr)
      (hdouble ▸ representable_two_pow (by omega))
    rw [hdouble] at hremoval
    rw [if_pos hreference, ratio, pow_add]
    exact hremoval.div (by positivity) hreference (h.reference r hr hreference)
      (pow_add (2 : ℝ) _ _ ▸ representable_two_pow (by omega))
  · rw [if_neg hreference]
    exact .zero (by positivity)

theorem bounded_mass (h : m.Covers rows s) (hr : r ∈ rows) :
    Bounded (2 ^ (m.ratio + m.flow)) (ofRow r).mass := by
  have hroom := h.room
  rw [impact] at hroom
  exact (h.bounded_ratio hr).mul_two_pow (h.flow r hr) (by omega)

theorem bounded_kn (h : m.Covers rows s) (hr : r ∈ rows) :
    Bounded (2 ^ m.impact) (Impact.ofRow s.hazardWeights s.windowSeconds r).kn := by
  have hroom := h.room
  rw [impact] at hroom
  have hscore := (h.weight r hr).mul_two_pow (h.bounded_ratio hr) (by omega)
  have hvolume := (h.flow r hr).mul_two_pow h.window (by omega)
  exact hscore.mul_two_pow hvolume (by omega)

theorem isFinite_run (h : m.Covers rows s) : (zero.run rows).isFinite = true := by
  have hroom := h.room
  rw [impact] at hroom
  have hcount := h.count
  rw [Accumulated.isFinite_iff, run_mass, run_risk]
  constructor
  · refine Bounded.isFinite_foldl_add (k := m.ratio + m.flow) ?_ ⟨isNaN_zero, value_zero⟩ ?_ (by omega)
    · exact List.forall_mem_map.mpr fun r => h.bounded_mass
    · rwa [masses, List.length_map]
  · refine Bounded.isFinite_foldl_add (k := m.ratio) ?_ ⟨isNaN_zero, value_zero⟩ ?_ (by omega)
    · exact List.forall_mem_map.mpr fun r => h.bounded_ratio
    · rwa [risks, List.length_map]

theorem isFinite_total (h : m.Covers rows s) :
    (Impact.total (rows.map (Impact.ofRow s.hazardWeights s.windowSeconds))).isFinite = true := by
  have hcount := h.count
  rw [Impact.total_eq, List.map_map]
  refine Bounded.isFinite_foldl_add ?_ ⟨rfl, value_neg_zero⟩ ?_ h.room
  · exact List.forall_mem_map.mpr fun r => h.bounded_kn
  · rwa [List.length_map]

end Covers

end Scale

theorem isFinite_columns {r : Measurement} (h : (ofRow r).isFinite = true) :
    r.flow.isFinite = true ∧
      (0 < r.reference → r.inlet.isFinite = true ∧ r.outlet.isFinite = true) := by
  obtain ⟨hmass, hrisk⟩ := Accumulated.isFinite_iff.mp h
  refine ⟨(isFinite_of_isFinite_mul hmass).2, fun hreference => ?_⟩
  have hratio : (ofRow r).risk = (r.inlet - r.outlet) / r.reference := if_pos hreference
  rw [hratio] at hrisk
  exact isFinite_of_isFinite_sub (isFinite_of_isFinite_div hreference hrisk)

namespace Certification

variable {rows : List Measurement} {s : Settings} {c : Certification}

theorem isFinite_riskOf (h : RisksInUnit rows s) (k : Contaminant) :
    (riskOf rows s k).isFinite = true := by
  obtain ⟨hnan, hlo, hhi⟩ := h k
  exact isFinite_iff.mpr ⟨hnan, (EReal.bot_lt_zero.trans_le hlo).ne',
    (hhi.trans_lt (EReal.coe_lt_top 1)).ne⟩

theorem isFinite_outlet (hs : s.Valid) (h : RisksInUnit rows s) {r : Measurement} (hr : r ∈ rows)
    {k : Contaminant} (hk : r.tracked? = some k) : r.outlet.isFinite = true := by
  have hmem : r.outlet ∈ outletsOf rows k :=
    List.mem_map_of_mem (List.mem_filter.mpr ⟨hr, beq_iff_eq.mpr hk⟩)
  -- neither division nor the sum loses an infinity or a NaN among the outlets
  have hmean := isFinite_riskOf h k
  rw [riskOf_eq] at hmean
  have hpos := List.length_pos_of_mem hmem
  have hsum := isFinite_of_isFinite_div (hs.thresholds k) hmean
  rw [mean_of_length_pos hpos] at hsum
  exact (isFinite_of_isFinite_foldl (isFinite_of_isFinite_div (zero_lt_ofNat hpos) hsum)).2 _ hmem

theorem stateNotFinite_mem_ofCycle (h : ofRows rows s = .ok c) {t : Accumulated} :
    Event.stateNotFinite t ∈ Event.ofCycle rows s ↔ t = c.state ∧ c.state.isFinite = false := by
  obtain ⟨hvalid, -, -⟩ := ofRows_eq_ok.mp h
  have hintegration : Event.stateNotFinite t ∉
      Event.ofIntegration s.hazardWeights s.windowSeconds rows := by
    intro hmem
    obtain hmem | hmem := List.mem_append.mp hmem
    · obtain ⟨r, -, hr⟩ := List.mem_flatMap.mp hmem
      split at hr <;> split at hr <;> simp at hr
    · simp at hmem
  rw [(completes_of_ofRows h).state, ← mem_ofAccumulation_iff]
  simp only [Event.ofCycle, hvalid, h, List.mem_append, hintegration, false_or, List.mem_singleton,
    reduceCtorEq, or_false]

theorem carried (h : ofRows rows s = .ok c) :
    c.impacts = rows.map (Impact.ofRow s.hazardWeights s.windowSeconds) ∧
      toFloat c.record.indices.impactDelta = Impact.total c.impacts ∧
      toFloat c.record.indices.viability = c.state.risk := by
  obtain ⟨-, -, rfl⟩ := ofRows_eq_ok.mp h
  exact ⟨rfl, Binary64.toFloat_ofFloat _, Binary64.toFloat_ofFloat _⟩

/-- What an accepted cycle carries into its record. The outlets of tracked contaminants are finite. The
impact total and the risk are carried as they are. A finite state takes finite flows, and finite
concentrations wherever they are used; the state is finite exactly if it has been so after each row,
and there is a warning exactly if it is not. A finite total takes finite impacts. All of it is finite
within a scale. -/
theorem accepted_finiteness (h : ofRows rows s = .ok c) (haccepted : c.accepted = true) :
    (∀ r ∈ rows, ∀ k, r.tracked? = some k → r.outlet.isFinite = true) ∧
    (c.state.isFinite = true → ∀ r ∈ rows, r.flow.isFinite = true ∧
      (0 < r.reference → r.inlet.isFinite = true ∧ r.outlet.isFinite = true)) ∧
    (c.state.isFinite = true ↔ ∀ seen, seen <+: rows → (zero.run seen).isFinite = true) ∧
    (c.state.isFinite = false ↔ ∃ t, Event.stateNotFinite t ∈ Event.ofCycle rows s) ∧
    ∃ record, Record.decode c.encoded = .ok record ∧
      toFloat record.indices.impactDelta = Impact.total c.impacts ∧
      toFloat record.indices.viability = c.state.risk ∧
      ((Impact.total c.impacts).isFinite = true → ∀ i ∈ c.impacts, i.kn.isFinite = true) ∧
      ∀ m : Scale, m.Covers rows s → c.state.isFinite = true ∧
        (toFloat record.indices.impactDelta).isFinite = true ∧
        (toFloat record.indices.viability).isFinite = true := by
  have hc := completes_of_ofRows h
  obtain ⟨hrisks, -⟩ := hc.accepted.mp haccepted
  obtain ⟨himpacts, himpact, hviability⟩ := carried h
  refine ⟨fun r hr k => isFinite_outlet hc.valid hrisks hr, ?_, ⟨?_, ?_⟩, ⟨?_, ?_⟩, c.record,
    decode_encoded h, himpact, hviability, ?_, ?_⟩
  · intro hstate r hr
    rw [hc.state] at hstate
    exact isFinite_columns ((isFinite_of_run hstate).2 r hr)
  · intro hstate seen hseen
    rw [hc.state] at hstate
    exact isFinite_of_seen hseen hstate
  · intro hseen
    rw [hc.state]
    exact hseen rows (List.prefix_refl rows)
  · exact fun hstate => ⟨c.state, (stateNotFinite_mem_ofCycle h).mpr ⟨rfl, hstate⟩⟩
  · exact fun ⟨t, ht⟩ => ((stateNotFinite_mem_ofCycle h).mp ht).2
  · intro htotal
    rw [Impact.total_eq] at htotal
    exact List.forall_mem_map.mp (isFinite_of_isFinite_foldl htotal).2
  · intro m hm
    have hstate : c.state.isFinite = true := hc.state ▸ hm.isFinite_run
    rw [himpact, hviability, himpacts]
    exact ⟨hstate, hm.isFinite_total, (Accumulated.isFinite_iff.mp hstate).2⟩

def moderateRows : List Measurement :=
  [ { Measurement.plain .tp 0.05 with inlet := 7, flow := 2.5 },
    { Measurement.plain .tds 400 with inlet := 900, flow := 0.5, reference := 0 / 0 } ]

def moderateScale : Scale := ⟨10, 0, 3, 1, 17⟩

theorem covers_moderateRows : moderateScale.Covers moderateRows .standard := by
  have hinlet : ∀ r ∈ moderateRows, r.inlet.abs ≤ Float.ofNat (2 ^ 10) := by decide +kernel
  have houtlet : ∀ r ∈ moderateRows, r.outlet.abs ≤ Float.ofNat (2 ^ 10) := by decide +kernel
  have hreference : ∀ r ∈ moderateRows, 0 < r.reference → 1 ≤ r.reference := by decide +kernel
  have hflow : ∀ r ∈ moderateRows, r.flow.abs ≤ Float.ofNat (2 ^ 3) := by decide +kernel
  have hweight : ∀ r ∈ moderateRows,
      (Settings.standard.hazardWeights.weight r.contaminant).abs ≤ Float.ofNat (2 ^ 1) := by
    decide +kernel
  exact {
    inlet := fun r hr => .of_abs_le (by decide) (hinlet r hr)
    outlet := fun r hr => .of_abs_le (by decide) (houtlet r hr)
    reference := by
      intro r hr hpos
      obtain ⟨-, -, hle⟩ := le_iff.mp (hreference r hr hpos)
      rwa [value_one, ← EReal.coe_one, ← inv_one, ← pow_zero (2 : ℝ)] at hle
    flow := fun r hr => .of_abs_le (by decide) (hflow r hr)
    weight := fun r hr => .of_abs_le (by decide) (hweight r hr)
    window := .of_abs_le (by decide) (by decide +kernel)
    count := by decide
    room := by decide }

theorem accepted_finiteness_moderateRows :
    ∃ c, ofRows moderateRows .standard = .ok c ∧ c.accepted = true ∧ c.state.isFinite = true ∧
      ∃ record, Record.decode c.encoded = .ok record ∧
        (toFloat record.indices.impactDelta).isFinite = true := by
  have haccepted : (ofRows moderateRows .standard).toOption.any (·.accepted) = true := by
    decide +kernel
  obtain ⟨c, h, hc⟩ := exists_ok_of_any haccepted
  obtain ⟨-, -, -, -, record, hrecord, -, -, -, hfinite⟩ := accepted_finiteness h hc
  obtain ⟨hstate, himpact, -⟩ := hfinite moderateScale covers_moderateRows
  exact ⟨c, h, hc, hstate, record, hrecord, himpact⟩

def infiniteInlet : List UInt8 := Text.encode
  ("node_id,location,system,contaminant,parameter,unit,baseline_cin,baseline_cout,q_cms,cref,wsup," ++
    "eco_impact_score,karma_per_unit\nN1,outfall,sewer,TP,total,mg/L,inf,0.05,1,1,0,0,0\n")

theorem infinite_inlet_accepted :
    ∃ loaded c record, NodeTable.load infiniteInlet = .ok loaded ∧
      ofRows loaded.rows .standard = .ok c ∧ c.accepted = true ∧
      c.state.mass.isFinite = false ∧ c.state.risk.isFinite = false ∧
      Record.decode c.encoded = .ok record ∧
      (toFloat record.indices.impactDelta).isFinite = false ∧
      (toFloat record.indices.viability).isFinite = false := by
  have hchecks : (NodeTable.load infiniteInlet).toOption.any (fun loaded =>
      (ofRows loaded.rows .standard).toOption.any fun c => c.accepted && (!c.state.mass.isFinite &&
        (!c.state.risk.isFinite && !(Impact.total c.impacts).isFinite))) = true := by
    decide +kernel
  obtain ⟨loaded, hload, hcycle⟩ := exists_ok_of_any hchecks
  obtain ⟨c, h, hc⟩ := exists_ok_of_any hcycle
  simp only [Bool.and_eq_true, Bool.not_eq_true'] at hc
  obtain ⟨haccepted, hmass, hrisk, htotal⟩ := hc
  obtain ⟨-, himpact, hviability⟩ := carried h
  exact ⟨loaded, c, c.record, hload, h, haccepted, hmass, hrisk, decode_encoded h,
    himpact ▸ htotal, hviability ▸ hrisk⟩

end Certification

end SiteSafety
