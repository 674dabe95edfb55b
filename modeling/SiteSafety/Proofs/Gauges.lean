import Mathlib.Data.List.Find
import Mathlib.Data.List.Induction
import Mathlib.Data.List.Nodup
import SiteSafety.Gauges

namespace SiteSafety

namespace Series

variable {labels ls : List String} {value v : Float} {l : List Series}

def keys (l : List Series) : List UInt64 := l.map fun s => key s.labels

theorem observe_cases (labels : List String) (value : Float) (l : List Series) :
    (∃ before s after, l = before ++ s :: after ∧ key s.labels = key labels ∧
      observe labels value l = before ++ ⟨s.labels, value⟩ :: after) ∨
    key labels ∉ keys l ∧ observe labels value l = l ++ [⟨labels, value⟩] := by
  induction l with
  | nil => exact .inr ⟨List.not_mem_nil, rfl⟩
  | cons s rest ih =>
      rw [observe]
      split
      · next hkey => exact .inl ⟨[], s, rest, rfl, hkey, rfl⟩
      · next hkey =>
        obtain ⟨before, t, after, rfl, ht, heq⟩ | ⟨hnew, heq⟩ := ih
        · exact .inl ⟨s :: before, t, after, rfl, ht, by rw [heq]; rfl⟩
        · exact .inr ⟨List.not_mem_cons_of_ne_of_not_mem (Ne.symm hkey) hnew, by rw [heq]; rfl⟩

theorem nodup_observe (hl : (keys l).Nodup) (labels : List String) (value : Float) :
    (keys (observe labels value l)).Nodup := by
  obtain ⟨before, s, after, rfl, -, heq⟩ | ⟨hnew, heq⟩ := observe_cases labels value l
  · rw [heq]
    simpa only [keys, List.map_append, List.map_cons] using hl
  · rw [heq, keys, List.map_append]
    exact hl.append (List.nodup_singleton _) (by simpa [keys] using hnew)

/-- Of the key of the labels, the series has the labels it had, or these if it is new. -/
theorem mem_observe (hl : (keys l).Nodup) : ⟨ls, v⟩ ∈ observe labels value l ↔
    if key ls = key labels then v = value ∧
      ((∃ old, ⟨ls, old⟩ ∈ l) ∨ key labels ∉ keys l ∧ ls = labels)
    else ⟨ls, v⟩ ∈ l := by
  obtain ⟨before, s, after, rfl, hs, heq⟩ | ⟨hnew, heq⟩ := observe_cases labels value l
  · rw [keys, List.map_append, List.map_cons, List.nodup_middle, List.nodup_cons,
      ← List.map_append] at hl
    have hother (w : Float) (hw : ⟨ls, w⟩ ∈ before ++ after) : key ls ≠ key labels :=
      fun hkey => hl.1 (List.mem_map.mpr ⟨⟨ls, w⟩, hw, hkey.trans hs.symm⟩)
    have hkeys : key labels ∈ keys (before ++ s :: after) :=
      List.mem_map.mpr ⟨s, by simp, hs⟩
    rw [heq]
    obtain ⟨old, w⟩ := s
    simp only [List.mem_append, List.mem_cons, Series.mk.injEq, hkeys, not_true, false_and,
      or_false] at hother hs ⊢
    split_ifs with hkey
    · grind
    · grind
  · have hother (w : Float) (hw : ⟨ls, w⟩ ∈ l) : key ls ≠ key labels :=
      fun hkey => hnew (hkey ▸ List.mem_map.mpr ⟨⟨ls, w⟩, hw, rfl⟩)
    rw [heq, List.mem_append, List.mem_singleton, Series.mk.injEq]
    split_ifs with hkey
    · grind
    · grind

end Series

structure Observation where
  gauge : Gauge
  labels : List String
  value : Float

namespace Gauges

inductive Call where
  | impacts (results : List Impact)
  | state (siteId : String) (s : Accumulated)
  | gate (siteId name : String) (passed : Bool)
  | verdicts (siteId : String) (conservation : ConservationVerdict) (stability : StabilityVerdict)

def Call.perform (g : Gauges) : Call → Gauges × Option Bool
  | impacts results => (g.withImpacts results, none)
  | state siteId s => (g.withState siteId s, none)
  | gate siteId name passed => (g.withGate siteId name passed, none)
  | verdicts siteId c s => (g.withVerdicts siteId c s, some (mustReject c s))

def gateValue (passed : Bool) : Float := if passed then 1 else 0

def Call.observations : Call → List Observation
  | impacts results => results.flatMap fun i =>
    [ ⟨.nodeKn, [i.nodeId, i.contaminant], i.kn⟩,
      ⟨.nodeKnSigma, [i.nodeId, i.contaminant], i.sigma⟩ ]
  | state siteId s => [⟨.stateMass, [siteId], s.mass⟩, ⟨.stateRisk, [siteId], s.risk⟩]
  | gate siteId name passed => [⟨.gatePass, [siteId, name], gateValue passed⟩]
  | verdicts siteId c s =>
    [ ⟨.gatePass, [siteId, conservationGate], gateValue c.passed⟩,
      ⟨.gatePass, [siteId, stabilityGate], gateValue s.passed⟩ ]

def after (calls : List Call) : Gauges := calls.foldl (fun g c => (c.perform g).1) empty

def observations (calls : List Call) : List Observation := calls.flatMap Call.observations

def lastValue? (os : List Observation) (gauge : Gauge) (labels : List String) : Option Float :=
  (os.reverse.find? fun o => o.gauge = gauge ∧ o.labels = labels).map (·.value)

/-- No other labels that were observed on the gauge have the key of these. -/
def KeyOwn (os : List Observation) (gauge : Gauge) (labels : List String) : Prop :=
  ∀ o ∈ os, o.gauge = gauge → Series.key o.labels = Series.key labels → o.labels = labels

def KeysDiffer (os : List Observation) (gauge : Gauge) : Prop :=
  ∀ o ∈ os, ∀ p ∈ os, o.gauge = gauge → p.gauge = gauge →
    Series.key o.labels = Series.key p.labels → o.labels = p.labels

instance (os : List Observation) (gauge : Gauge) (labels : List String) :
    Decidable (KeyOwn os gauge labels) :=
  inferInstanceAs (Decidable (∀ o ∈ os, o.gauge = gauge →
    Series.key o.labels = Series.key labels → o.labels = labels))

instance (os : List Observation) (gauge : Gauge) : Decidable (KeysDiffer os gauge) :=
  inferInstanceAs (Decidable (∀ o ∈ os, ∀ p ∈ os, o.gauge = gauge → p.gauge = gauge →
    Series.key o.labels = Series.key p.labels → o.labels = p.labels))

/-- One sample for each label tuple that was observed on the gauge, with the last value, and no other. -/
structure ShowsLast (samples : List Series) (os : List Observation) (gauge : Gauge) : Prop where
  nodup : (samples.map (·.labels)).Nodup
  mem_iff : ∀ labels value, ⟨labels, value⟩ ∈ samples ↔ lastValue? os gauge labels = some value

/-- The labels first observed with the key. -/
def firstLabels? (os : List Observation) (gauge : Gauge) (k : UInt64) : Option (List String) :=
  (os.find? fun o => o.gauge = gauge ∧ Series.key o.labels = k).map (·.labels)

def lastOfKey? (os : List Observation) (gauge : Gauge) (k : UInt64) : Option Float :=
  (os.reverse.find? fun o => o.gauge = gauge ∧ Series.key o.labels = k).map (·.value)

/-- One sample for each key that was observed on the gauge, with the first labels and the last value. -/
structure ShowsByKey (samples : List Series) (os : List Observation) (gauge : Gauge) : Prop where
  nodup : (Series.keys samples).Nodup
  mem_iff : ∀ labels value, ⟨labels, value⟩ ∈ samples ↔
    firstLabels? os gauge (Series.key labels) = some labels ∧
      lastOfKey? os gauge (Series.key labels) = some value

variable {g : Gauges} {gauge : Gauge} {o : Observation} {os : List Observation} {k : UInt64}
  {labels : List String} {value : Float} {samples samples' : List Series}

def record (g : Gauges) (o : Observation) : Gauges := g.observe o.gauge o.labels o.value

theorem perform_eq (g : Gauges) (c : Call) : (c.perform g).1 = c.observations.foldl record g := by
  cases c with
  | impacts results =>
      change results.foldl withImpact g = _
      rw [Call.observations, List.foldl_flatMap]
      rfl
  | state | gate | verdicts => rfl

theorem after_eq (calls : List Call) : after calls = (observations calls).foldl record empty := by
  rw [after, observations, List.foldl_flatMap]
  simp only [perform_eq]

theorem series_observe (g : Gauges) (gauge other : Gauge) (labels : List String) (value : Float) :
    (g.observe gauge labels value).series other =
      if gauge = other then Series.observe labels value (g.series other) else g.series other := by
  cases gauge <;> cases other <;> rfl

theorem map_find?_reverse_concat {p : Observation → Prop} [DecidablePred p] :
    ((os ++ [o]).reverse.find? (p ·)).map (·.value) =
      if p o then some o.value else (os.reverse.find? (p ·)).map (·.value) := by
  rw [List.reverse_append, List.reverse_singleton, List.singleton_append, List.find?_cons]
  split
  · next h => rw [if_pos (of_decide_eq_true h)]; rfl
  · next h => rw [if_neg (of_decide_eq_false h)]

theorem lastValue?_concat (os : List Observation) (o : Observation) (gauge : Gauge)
    (labels : List String) : lastValue? (os ++ [o]) gauge labels =
      if o.gauge = gauge ∧ o.labels = labels then some o.value else lastValue? os gauge labels :=
  map_find?_reverse_concat

theorem lastOfKey?_concat (os : List Observation) (o : Observation) (gauge : Gauge) (k : UInt64) :
    lastOfKey? (os ++ [o]) gauge k =
      if o.gauge = gauge ∧ Series.key o.labels = k then some o.value else lastOfKey? os gauge k :=
  map_find?_reverse_concat

theorem firstLabels?_concat (os : List Observation) (o : Observation) (gauge : Gauge) (k : UInt64) :
    firstLabels? (os ++ [o]) gauge k = (firstLabels? os gauge k).or
      (if o.gauge = gauge ∧ Series.key o.labels = k then some o.labels else none) := by
  rw [firstLabels?, List.find?_append, Option.map_or, List.find?_singleton]
  split
  · next h => rw [if_pos (of_decide_eq_true h)]; rfl
  · next h => rw [if_neg (fun h' => h (decide_eq_true h'))]; rfl

theorem exists_observation (h : lastValue? os gauge labels = some value) :
    ∃ o ∈ os, o.gauge = gauge ∧ o.labels = labels := by
  obtain ⟨o, ho, -⟩ := Option.map_eq_some_iff.mp h
  exact ⟨o, List.mem_reverse.mp (List.mem_of_find?_eq_some ho), by simpa using List.find?_some ho⟩

theorem exists_of_firstLabels? (h : firstLabels? os gauge k = some labels) :
    ∃ o ∈ os, o.gauge = gauge ∧ Series.key o.labels = k ∧ o.labels = labels := by
  obtain ⟨o, ho, rfl⟩ := Option.map_eq_some_iff.mp h
  have hkey : o.gauge = gauge ∧ Series.key o.labels = k := by simpa using List.find?_some ho
  exact ⟨o, List.mem_of_find?_eq_some ho, hkey.1, hkey.2, rfl⟩

theorem firstLabels?_eq_none :
    firstLabels? os gauge k = none ↔ lastOfKey? os gauge k = none := by
  simp [firstLabels?, lastOfKey?]

namespace ShowsByKey

theorem exists_mem_iff (h : ShowsByKey samples os gauge) :
    (∃ old, ⟨labels, old⟩ ∈ samples) ↔ firstLabels? os gauge (Series.key labels) = some labels := by
  simp only [h.mem_iff, exists_and_left]
  refine and_iff_left_of_imp fun hfirst => Option.ne_none_iff_exists'.mp fun hnone => ?_
  rw [firstLabels?_eq_none.mpr hnone] at hfirst
  cases hfirst

theorem not_mem_keys_iff (h : ShowsByKey samples os gauge) :
    k ∉ Series.keys samples ↔ firstLabels? os gauge k = none := by
  rw [← not_iff_not, not_not, ← ne_eq, Option.ne_none_iff_exists']
  constructor
  · intro hk
    obtain ⟨s, hs, rfl⟩ := List.mem_map.mp hk
    exact ⟨s.labels, ((h.mem_iff s.labels s.value).mp hs).1⟩
  · rintro ⟨labels, hfirst⟩
    obtain ⟨o, -, -, rfl, rfl⟩ := exists_of_firstLabels? hfirst
    obtain ⟨value, hmem⟩ := h.exists_mem_iff.mpr hfirst
    exact List.mem_map.mpr ⟨_, hmem, rfl⟩

theorem empty (gauge : Gauge) : ShowsByKey (Gauges.empty.series gauge) [] gauge := by
  have hnone : Gauges.empty.series gauge = [] := by cases gauge <;> rfl
  rw [hnone]
  exact ⟨List.nodup_nil, fun _ _ => iff_of_false List.not_mem_nil nofun⟩

theorem record (h : ShowsByKey (g.series gauge) os gauge) :
    ShowsByKey ((g.record o).series gauge) (os ++ [o]) gauge := by
  rw [Gauges.record, series_observe]
  split_ifs with hgauge
  · refine ⟨Series.nodup_observe h.nodup o.labels o.value, fun labels value => ?_⟩
    rw [Series.mem_observe h.nodup, h.exists_mem_iff, h.not_mem_keys_iff, firstLabels?_concat,
      lastOfKey?_concat]
    by_cases hkey : Series.key labels = Series.key o.labels
    · simp only [hkey, hgauge, and_self, if_true]
      cases firstLabels? os gauge (Series.key o.labels) with
      | none => simp [and_comm, eq_comm]
      | some first => simp [and_comm, eq_comm]
    · rw [if_neg hkey, h.mem_iff, if_neg fun h' => hkey h'.2.symm, if_neg fun h' => hkey h'.2.symm,
        Option.or_none]
  · refine ⟨h.nodup, fun labels value => ?_⟩
    rw [h.mem_iff, firstLabels?_concat, lastOfKey?_concat, if_neg fun h' => hgauge h'.1,
      if_neg fun h' => hgauge h'.1, Option.or_none]

theorem foldl (os : List Observation) (gauge : Gauge) :
    ShowsByKey ((os.foldl Gauges.record Gauges.empty).series gauge) os gauge := by
  induction os using List.reverseRecOn with
  | nil => exact .empty gauge
  | append_singleton os o ih =>
      rw [List.foldl_concat]
      exact ih.record

theorem perm (h : ShowsByKey samples os gauge) (hperm : samples'.Perm samples) :
    ShowsByKey samples' os gauge :=
  ⟨(hperm.map _).nodup_iff.mpr h.nodup, fun _ _ => hperm.mem_iff.trans (h.mem_iff _ _)⟩

theorem observed (h : ShowsByKey samples os gauge) {s : Series} (hs : s ∈ samples) :
    ∃ o ∈ os, o.gauge = gauge ∧ o.labels = s.labels := by
  obtain ⟨o, ho, hgauge, -, hlabels⟩ :=
    exists_of_firstLabels? ((h.mem_iff s.labels s.value).mp hs).1
  exact ⟨o, ho, hgauge, hlabels⟩

end ShowsByKey

theorem KeyOwn.lastOfKey?_eq (h : KeyOwn os gauge labels) :
    lastOfKey? os gauge (Series.key labels) = lastValue? os gauge labels := by
  refine congrArg _ (List.find?_congr fun o ho => decide_eq_decide.mpr ?_)
  exact and_congr_right fun hgauge => ⟨h o (List.mem_reverse.mp ho) hgauge, congrArg _⟩

theorem KeyOwn.firstLabels?_eq (h : KeyOwn os gauge labels)
    (hvalue : lastValue? os gauge labels = some value) :
    firstLabels? os gauge (Series.key labels) = some labels := by
  rw [← h.lastOfKey?_eq] at hvalue
  obtain ⟨first, hfirst⟩ := Option.ne_none_iff_exists'.mp fun hnone => by
    rw [firstLabels?_eq_none.mp hnone] at hvalue
    cases hvalue
  obtain ⟨o, ho, hgauge, hkey, rfl⟩ := exists_of_firstLabels? hfirst
  rw [hfirst, h o ho hgauge hkey]

theorem ShowsByKey.mem_iff_of_own (h : ShowsByKey samples os gauge) (hown : KeyOwn os gauge labels)
    (value : Float) : ⟨labels, value⟩ ∈ samples ↔ lastValue? os gauge labels = some value := by
  rw [h.mem_iff, hown.lastOfKey?_eq]
  exact and_iff_right_of_imp hown.firstLabels?_eq

theorem ShowsByKey.showsLast (h : ShowsByKey samples os gauge) (hkeys : KeysDiffer os gauge) :
    ShowsLast samples os gauge := by
  have hown {o : Observation} (ho : o ∈ os) (hgauge : o.gauge = gauge) :
      KeyOwn os gauge o.labels := fun p hp hgauge' hkey => hkeys p hp o ho hgauge' hgauge hkey
  have hnodup : ((samples.map (·.labels)).map Series.key).Nodup := by
    rw [List.map_map]
    exact h.nodup
  refine ⟨hnodup.of_map, fun labels value => ?_⟩
  constructor
  · intro hmem
    obtain ⟨o, ho, hgauge, rfl⟩ := h.observed hmem
    exact (h.mem_iff_of_own (hown ho hgauge) value).mp hmem
  · intro hvalue
    obtain ⟨o, ho, hgauge, rfl⟩ := exists_observation hvalue
    exact (h.mem_iff_of_own (hown ho hgauge) value).mpr hvalue

theorem showsByKey_after (calls : List Call) (gauge : Gauge) :
    ShowsByKey ((after calls).sortedSeries gauge) (observations calls) gauge := by
  rw [after_eq]
  exact (ShowsByKey.foldl _ gauge).perm (List.mergeSort_perm _ _)

theorem mustReject_eq (c : ConservationVerdict) (s : StabilityVerdict) :
    mustReject c s = (!c.passed || !s.passed) := by
  rw [mustReject, Bool.not_and]

theorem lastValue?_verdicts (os : List Observation) (siteId : String) (c : ConservationVerdict)
    (s : StabilityVerdict) :
    lastValue? (os ++ (Call.verdicts siteId c s).observations) .gatePass [siteId, conservationGate] =
        some (gateValue c.passed) ∧
      lastValue? (os ++ (Call.verdicts siteId c s).observations) .gatePass [siteId, stabilityGate] =
        some (gateValue s.passed) := by
  have hne : ¬ [siteId, stabilityGate] = [siteId, conservationGate] := by
    simp [stabilityGate, conservationGate]
  rw [Call.observations, ← List.singleton_append, ← List.append_assoc]
  constructor
  · rw [lastValue?_concat, if_neg fun h => hne h.2, lastValue?_concat, if_pos ⟨rfl, rfl⟩]
  · rw [lastValue?_concat, if_pos ⟨rfl, rfl⟩]

/-- Gauges after calls of any kind. A gauge has one sample for each key that was observed on it, with the
labels that came first and the value that came last. Labels that share their key with no others show
their own last value, so that a gauge of which that is so of all labels shows the last observation of
each, once, and nothing else. Verdicts are to be rejected unless both passed, and each gate of their site
that shares its series with no other shows its verdict, whichever failed. -/
theorem shows_last_observations (calls : List Call) :
    (∀ gauge, ShowsByKey ((after calls).sortedSeries gauge) (observations calls) gauge ∧
      (∀ s ∈ (after calls).sortedSeries gauge,
        ∃ o ∈ observations calls, o.gauge = gauge ∧ o.labels = s.labels) ∧
      (∀ labels value, KeyOwn (observations calls) gauge labels →
        (⟨labels, value⟩ ∈ (after calls).sortedSeries gauge ↔
          lastValue? (observations calls) gauge labels = some value)) ∧
      (KeysDiffer (observations calls) gauge →
        ShowsLast ((after calls).sortedSeries gauge) (observations calls) gauge)) ∧
    ∀ before siteId c s rest, calls = before ++ .verdicts siteId c s :: rest →
      (∀ g, ((Call.verdicts siteId c s).perform g).2 = some (!c.passed || !s.passed)) ∧
      (KeyOwn (observations (before ++ [.verdicts siteId c s])) .gatePass [siteId, conservationGate] →
        ⟨[siteId, conservationGate], gateValue c.passed⟩ ∈
          (after (before ++ [.verdicts siteId c s])).sortedSeries .gatePass) ∧
      (KeyOwn (observations (before ++ [.verdicts siteId c s])) .gatePass [siteId, stabilityGate] →
        ⟨[siteId, stabilityGate], gateValue s.passed⟩ ∈
          (after (before ++ [.verdicts siteId c s])).sortedSeries .gatePass) := by
  refine ⟨fun gauge => ?_, fun before siteId c s _ _ => ⟨fun g => ?_, ?_⟩⟩
  · have hshown := showsByKey_after calls gauge
    exact ⟨hshown, fun _ => hshown.observed, fun _ value hown => hshown.mem_iff_of_own hown value,
      hshown.showsLast⟩
  · rw [Call.perform, mustReject_eq]
  · have hshown := showsByKey_after (before ++ [.verdicts siteId c s]) .gatePass
    have hobservations : observations (before ++ [.verdicts siteId c s]) =
        observations before ++ (Call.verdicts siteId c s).observations := by
      rw [observations, List.flatMap_append, List.flatMap_singleton]
      rfl
    obtain ⟨hconservation, hstability⟩ := lastValue?_verdicts (observations before) siteId c s
    rw [← hobservations] at hconservation hstability
    exact ⟨fun hown => (hshown.mem_iff_of_own hown _).mpr hconservation,
      fun hown => (hshown.mem_iff_of_own hown _).mpr hstability⟩

/-- A gate that fails after it passed, a node observed twice, and two others whose names run on into those
of their contaminants alike. -/
def dailyCalls : List Call :=
  [ .verdicts "phoenix" ⟨true, true⟩ .safe,
    .impacts [⟨"N1", "TP", 1, 0.05⟩, ⟨"ab", "c", 4, 0.1⟩, ⟨"a", "bc", 5, 0.1⟩, ⟨"N1", "TP", -9, 0.15⟩],
    .verdicts "phoenix" ⟨true, true⟩ .noCorridor ]

theorem shows_last_observations_daily :
    ¬ KeysDiffer (observations dailyCalls) .nodeKn ∧
      KeyOwn (observations dailyCalls) .nodeKn ["N1", "TP"] ∧
      KeysDiffer (observations dailyCalls) .gatePass ∧
      (⟨["N1", "TP"], -9⟩ : Series) ∈ (after dailyCalls).sortedSeries .nodeKn ∧
      (⟨["ab", "c"], 5⟩ : Series) ∈ (after dailyCalls).sortedSeries .nodeKn ∧
      (⟨["phoenix", "conservation"], 1⟩ : Series) ∈ (after dailyCalls).sortedSeries .gatePass ∧
      (⟨["phoenix", "stability"], 0⟩ : Series) ∈ (after dailyCalls).sortedSeries .gatePass := by
  have hmerged : ¬ KeysDiffer (observations dailyCalls) .nodeKn := by decide +kernel
  have hown : KeyOwn (observations dailyCalls) .nodeKn ["N1", "TP"] := by decide +kernel
  have hgates : KeysDiffer (observations dailyCalls) .gatePass := by decide +kernel
  have hlast : lastValue? (observations dailyCalls) .nodeKn ["N1", "TP"] = some (-9) := by
    decide +kernel
  have hkeyed : firstLabels? (observations dailyCalls) .nodeKn (Series.key ["ab", "c"]) =
      some ["ab", "c"] ∧ lastOfKey? (observations dailyCalls) .nodeKn (Series.key ["ab", "c"]) =
        some 5 := by
    decide +kernel
  obtain ⟨hshown, hverdicts⟩ := shows_last_observations dailyCalls
  obtain ⟨hbyKey, -, htuple, -⟩ := hshown .nodeKn
  obtain ⟨-, hconservation, hstability⟩ :=
    hverdicts (dailyCalls.take 2) "phoenix" ⟨true, true⟩ .noCorridor [] rfl
  exact ⟨hmerged, hown, hgates, (htuple _ _ hown).mpr hlast, (hbyKey.mem_iff _ _).mpr hkeyed,
    hconservation (by decide +kernel), hstability (by decide +kernel)⟩

/-- Two nodes whose names run on into those of their contaminants alike. -/
def mergedCalls : List Call := [.impacts [⟨"ab", "c", 1, 0.05⟩, ⟨"a", "bc", 4, 0.1⟩]]

theorem merged_samples :
    ¬ ShowsLast ((after mergedCalls).sortedSeries .nodeKn) (observations mergedCalls) .nodeKn := by
  intro h
  have hlast : lastValue? (observations mergedCalls) .nodeKn ["a", "bc"] = some 4 := by
    decide +kernel
  have hmissing : (⟨["a", "bc"], 4⟩ : Series) ∉ (after mergedCalls).sortedSeries .nodeKn := by
    decide +kernel
  exact hmissing ((h.mem_iff _ _).mpr hlast)

end Gauges

end SiteSafety
