import SiteSafety.Proofs.Gauges
import SiteSafety.Proofs.Gauges.Keys
import SiteSafety.Proofs.Json.Numeral

namespace SiteSafety

/-- The lines of a text; behind a last line break there is an empty one. -/
def linesOf (text : String) : List String := (text.toList.splitOn '\n').map String.ofList

def OneLine (line : String) : Prop := '\n' ∉ line.toList

instance (line : String) : Decidable (OneLine line) :=
  inferInstanceAs (Decidable ('\n' ∉ line.toList))

theorem intercalate_lines (lines : List (List Char)) :
    ['\n'].intercalate (lines ++ [[]]) = lines.flatMap (· ++ ['\n']) := by
  induction lines with
  | nil => rfl
  | cons line lines ih =>
      rw [List.flatMap_cons, ← ih]
      cases lines <;> rw [List.cons_append]
      · rw [List.nil_append, List.intercalate_cons_cons]
      · rw [List.cons_append, List.intercalate_cons_cons]

theorem linesOf_join {lines : List String} (h : ∀ line ∈ lines, OneLine line) :
    linesOf (String.join (lines.map (· ++ "\n"))) = lines ++ [""] := by
  have htext : (String.join (lines.map (· ++ "\n"))).toList =
      ['\n'].intercalate (lines.map String.toList ++ [[]]) := by
    rw [intercalate_lines, String.toList_join, List.flatMap_map, List.flatMap_map]
    simp only [String.toList_append]
    rfl
  have hlines : ∀ l ∈ lines.map String.toList ++ [[]], '\n' ∉ l := by
    rw [List.forall_mem_append, List.forall_mem_map]
    exact ⟨h, by simp⟩
  rw [linesOf, htext, List.splitOn_intercalate '\n' hlines (by simp), List.map_append, List.map_map]
  simp

namespace Gauges

def sampleStart (gauge : Gauge) : String := gauge.name ++ "\x7b"

/-- The lines of a text that give samples of the gauge. -/
def sampleLines (gauge : Gauge) (text : String) : List String :=
  (linesOf text).filter fun line => (sampleStart gauge).toList <+: line.toList

def sampleLine (gauge : Gauge) (s : Series) : String :=
  let labels := (pairs gauge s).map fun p => p.1 ++ "=\"" ++ escaped p.2 ++ "\""
  sampleStart gauge ++ ",".intercalate labels ++ "\x7d " ++ Decimal.plain s.value

theorem sample_eq (gauge : Gauge) (s : Series) : sample gauge s = sampleLine gauge s ++ "\n" := rfl

def familyLines (g : Gauges) (gauge : Gauge) : List String :=
  match g.sortedSeries gauge with
  | [] => []
  | series => ("# HELP " ++ gauge.name ++ " " ++ gauge.help) :: ("# TYPE " ++ gauge.name ++ " gauge") ::
      series.map (sampleLine gauge)

theorem family_eq (g : Gauges) (gauge : Gauge) :
    g.family gauge = String.join ((g.familyLines gauge).map (· ++ "\n")) := by
  have htype : "\n# TYPE " = "\n" ++ "# TYPE " := rfl
  have hgauge : " gauge\n" = " gauge" ++ "\n" := rfl
  have hsamples : sample gauge = (· ++ "\n") ∘ sampleLine gauge := funext (sample_eq gauge)
  unfold family familyLines
  cases g.sortedSeries gauge with
  | nil => rfl
  | cons s rest =>
      rw [List.map_cons, List.map_cons, List.map_map, ← hsamples, String.join_cons, String.join_cons,
        htype, hgauge]
      simp only [String.append_assoc]

theorem exposition_eq (g : Gauges) :
    g.exposition = String.join ((Gauge.all.flatMap g.familyLines).map (· ++ "\n")) := by
  rw [exposition, List.map_flatMap]
  simp only [Gauge.all, List.map_cons, List.map_nil, List.flatMap_cons, List.flatMap_nil, family_eq,
    String.join_cons, String.join_append]

theorem newline_not_mem_escapedChar (c : Char) : '\n' ∉ escapedChar c := by
  unfold escapedChar
  split
  · decide
  · decide
  · decide
  · next hc _ => simpa [eq_comm] using hc

theorem oneLine_escaped (text : String) : OneLine (escaped text) := by
  rw [OneLine, escaped, String.toList_ofList, List.mem_flatMap]
  rintro ⟨c, -, hc⟩
  exact newline_not_mem_escapedChar c hc

theorem oneLine_append {s t : String} : OneLine (s ++ t) ↔ OneLine s ∧ OneLine t := by
  rw [OneLine, String.toList_append, List.mem_append, not_or]
  rfl

theorem oneLine_plain (x : Float) : OneLine (Decimal.plain x) := by
  rw [OneLine, Decimal.plain, String.toList_ofList]
  intro h
  cases Json.solid_plainChars x '\n' h

theorem oneLine_intercalate {texts : List String} (h : ∀ t ∈ texts, OneLine t) :
    OneLine (",".intercalate texts) := by
  rw [OneLine, String.toList_intercalate]
  induction texts with
  | nil => exact List.not_mem_nil
  | cons t texts ih =>
      obtain ⟨ht, htexts⟩ := List.forall_mem_cons.mp h
      cases texts with
      | nil => simpa [OneLine] using ht
      | cons u texts =>
          rw [List.map_cons, List.map_cons, List.intercalate_cons_cons, List.mem_append,
            List.mem_append, not_or, not_or]
          exact ⟨⟨ht, by decide⟩, ih htexts⟩

theorem oneLine_name (gauge : Gauge) : OneLine gauge.name := by
  cases gauge <;> decide

theorem oneLine_help (gauge : Gauge) : OneLine gauge.help := by
  cases gauge <;> decide

theorem oneLine_label (gauge : Gauge) : ∀ label ∈ gauge.labels, OneLine label := by
  cases gauge <;> decide

theorem oneLine_sampleLine (gauge : Gauge) (s : Series) : OneLine (sampleLine gauge s) := by
  have hlabels : ∀ p ∈ pairs gauge s, OneLine p.1 := by
    intro p hp
    exact oneLine_label gauge _ (List.of_mem_zip ((List.mergeSort_perm _ _).mem_iff.mp hp)).1
  simp only [sampleLine, sampleStart, oneLine_append]
  refine ⟨⟨⟨⟨oneLine_name gauge, by decide⟩, oneLine_intercalate ?_⟩, by decide⟩, oneLine_plain _⟩
  rw [List.forall_mem_map]
  intro p hp
  simp only [oneLine_append]
  exact ⟨⟨⟨hlabels p hp, by decide⟩, oneLine_escaped _⟩, by decide⟩

theorem oneLine_familyLines (g : Gauges) (gauge : Gauge) :
    ∀ line ∈ g.familyLines gauge, OneLine line := by
  unfold familyLines
  split
  · exact List.forall_mem_nil _
  · rw [List.forall_mem_cons, List.forall_mem_cons, List.forall_mem_map]
    simp only [oneLine_append]
    exact ⟨⟨⟨⟨by decide, oneLine_name gauge⟩, by decide⟩, oneLine_help gauge⟩,
      ⟨⟨by decide, oneLine_name gauge⟩, by decide⟩, fun s _ => oneLine_sampleLine gauge s⟩

theorem eq_of_sampleStart {gauge other : Gauge}
    (h : (sampleStart gauge).toList <+: (sampleStart other).toList) : gauge = other := by
  revert h
  cases gauge <;> cases other <;> decide

theorem sampleStart_sampleLine (gauge other : Gauge) (s : Series) :
    (sampleStart gauge).toList <+: (sampleLine other s).toList ↔ gauge = other := by
  have hother : (sampleStart other).toList <+: (sampleLine other s).toList := by
    simp only [sampleLine, String.toList_append, List.append_assoc]
    exact List.prefix_append _ _
  constructor
  · intro h
    obtain h | h := List.prefix_or_prefix_of_prefix h hother
    · exact eq_of_sampleStart h
    · exact (eq_of_sampleStart h).symm
  · rintro rfl
    exact hother

theorem filter_familyLines (g : Gauges) (gauge other : Gauge) :
    (g.familyLines other).filter (fun line => (sampleStart gauge).toList <+: line.toList) =
      if gauge = other then (g.sortedSeries other).map (sampleLine other) else [] := by
  have habout : ∀ rest, ¬ (sampleStart gauge).toList <+: '#' :: rest := by
    intro rest
    cases gauge <;> simp [sampleStart, Gauge.name]
  have hsample : ∀ s, ((sampleStart gauge).toList <+: (sampleLine other s).toList) = (gauge = other) :=
    fun s => propext (sampleStart_sampleLine gauge other s)
  unfold familyLines
  split
  · next h => rw [h, List.map_nil, List.filter_nil, ite_self]
  · rw [List.filter_cons_of_neg (by simpa using habout _), List.filter_cons_of_neg
      (by simpa using habout _), List.filter_map]
    simp only [Function.comp_def, hsample]
    by_cases h : gauge = other <;> simp [h]

/-- The lines that begin with the name of a gauge and an opening brace are its samples. -/
theorem sampleLines_exposition (g : Gauges) (gauge : Gauge) :
    sampleLines gauge g.exposition = (g.sortedSeries gauge).map (sampleLine gauge) := by
  have hlines : ∀ line ∈ Gauge.all.flatMap g.familyLines, OneLine line := by
    rw [List.forall_mem_flatMap]
    exact fun other _ => oneLine_familyLines g other
  have hlast : ¬ (sampleStart gauge).toList <+: "".toList := by
    cases gauge <;> decide
  rw [sampleLines, exposition_eq, linesOf_join hlines, List.filter_append, List.filter_flatMap,
    List.filter_cons_of_neg (by simpa using hlast), List.filter_nil, List.append_nil]
  simp only [filter_familyLines]
  cases gauge <;> simp [Gauge.all]

def gateLine (siteId gate : String) (passed : Bool) : String :=
  "ecosafety_gate_pass\x7bgate=\"" ++ gate ++ "\",site_id=\"" ++ escaped siteId ++ "\"\x7d " ++
    if passed then "1" else "0"

variable {siteId gate : String}

theorem pairs_gatePass (siteId gate : String) (value : Float) :
    pairs .gatePass ⟨[siteId, gate], value⟩ = [("gate", gate), ("site_id", siteId)] := by
  have h : ¬ ("site_id" ≤ "gate") := by decide
  simp [pairs, Gauge.labels, List.mergeSort, h]

theorem plain_gateValue (passed : Bool) :
    Decimal.plain (gateValue passed) = if passed then "1" else "0" := by
  cases passed <;> decide +kernel

theorem sampleLine_gate (hgate : escaped gate = gate) (passed : Bool) :
    sampleLine .gatePass ⟨[siteId, gate], gateValue passed⟩ = gateLine siteId gate passed := by
  have hstart : "ecosafety_gate_pass\x7bgate=\"" = sampleStart .gatePass ++ "gate" ++ "=\"" := by
    decide
  have hsite : "\",site_id=\"" = "\"" ++ "," ++ "site_id" ++ "=\"" := by decide
  have hend : "\"\x7d " = "\"" ++ "\x7d " := by decide
  unfold sampleLine gateLine
  rw [pairs_gatePass, plain_gateValue, hstart, hsite, hend]
  simp only [List.map_cons, List.map_nil, String.intercalate_cons_cons, String.intercalate_singleton,
    hgate, String.append_assoc]

theorem series_withVerdicts {g : Gauges} (h : g.gatePass = []) (c : ConservationVerdict)
    (s : StabilityVerdict) : (g.withVerdicts siteId c s).gatePass =
      if GateKeysDiffer siteId then
        [⟨[siteId, conservationGate], gateValue c.passed⟩,
          ⟨[siteId, stabilityGate], gateValue s.passed⟩]
      else [⟨[siteId, conservationGate], gateValue s.passed⟩] := by
  by_cases hkeys : GateKeysDiffer siteId
  · simp only [withVerdicts, withGate, observe, h, Series.observe, if_pos hkeys, if_neg hkeys]
    rfl
  · simp only [withVerdicts, withGate, observe, h, Series.observe, if_neg hkeys,
      if_pos (not_not.mp hkeys)]
    rfl

theorem gatePass_withImpacts (g : Gauges) (impacts : List Impact) :
    (g.withImpacts impacts).gatePass = g.gatePass := by
  induction impacts generalizing g with
  | nil => rfl
  | cons i impacts ih => exact ih (g.withImpact i)

theorem sampleLines_withVerdicts {g : Gauges} (h : g.gatePass = []) (c : ConservationVerdict)
    (s : StabilityVerdict) : sampleLines .gatePass (g.withVerdicts siteId c s).exposition =
      if GateKeysDiffer siteId then
        [gateLine siteId conservationGate c.passed, gateLine siteId stabilityGate s.passed]
      else [gateLine siteId conservationGate s.passed] := by
  have hconservation : escaped conservationGate = conservationGate := by decide
  have hstability : escaped stabilityGate = stabilityGate := by decide
  have horder : ¬ [stabilityGate, siteId] < [conservationGate, siteId] := by
    rw [List.cons_lt_cons_iff]
    exact not_or.mpr ⟨by decide, fun h => absurd h.1 (by decide)⟩
  rw [sampleLines_exposition, sortedSeries, series, series_withVerdicts h]
  split
  · rw [List.mergeSort_of_pairwise]
    · rw [List.map_cons, List.map_singleton, sampleLine_gate hconservation, sampleLine_gate hstability]
    · rw [List.pairwise_pair, pairs_gatePass, pairs_gatePass]
      simpa using horder
  · rw [List.mergeSort_singleton, List.map_singleton, sampleLine_gate hconservation]

end Gauges

end SiteSafety
