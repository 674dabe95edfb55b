import SiteSafety.Proofs.HazardTable
import SiteSafety.Proofs.Rows

namespace SiteSafety

open FloatValue

/-- The tracked contaminants are coded by their places, so a code from the end on stands for none. -/
theorem Contaminant.ofCode?_eq_getElem? (code : UInt8) : ofCode? code = all[code.toNat]? := by
  by_cases h : code.toNat < 4
  · have hcode : code = 0 ∨ code = 1 ∨ code = 2 ∨ code = 3 := by
      simp only [← UInt8.toNat_inj, UInt8.reduceToNat]
      omega
    rcases hcode with rfl | rfl | rfl | rfl <;> rfl
  · rw [List.getElem?_eq_none (not_lt.mp h), ofCode?, List.find?_eq_none]
    intro c _ hc
    rw [← eq_of_beq hc] at h
    cases c <;> exact h (by decide)

/-- The code that is passed for a row: the place of its contaminant among the tracked ones, or any
place beyond them if it is not tracked. -/
def Measurement.HasCode (r : Measurement) (code : UInt8) : Prop :=
  Contaminant.all[code.toNat]? = r.tracked?

def HazardTable.Lists (t : HazardTable) (weights : Panel Float) : Prop :=
  ∀ name, t.find? name = (Contaminant.ofName? name).map weights.get

def Impact.estimate (i : Impact) : KnEstimate := ⟨i.kn, i.sigma⟩

/-- One call after another, all of them writing over the same place: what each answers, and leaves
there. -/
def estimateEach (weights : Panel Float) (windowSeconds : Float) (out : KnEstimate) :
    List BareMeasurement → List (CallStatus × Option KnEstimate)
  | [] => []
  | n :: nodes =>
    let answer := estimateCall (some n) (some weights) windowSeconds (some out)
    answer :: estimateEach weights windowSeconds (answer.2.getD out) nodes

variable {t : HazardTable} {weights : Panel Float} {windowSeconds : Float} {r : Measurement}
  {rows : List Measurement} {code : UInt8} {codes : List UInt8}

namespace HazardTable

theorem lists_ofPanel (weights : Panel Float) : (ofPanel weights).Lists weights :=
  find?_ofPanel weights

theorem Lists.weight_name (h : t.Lists weights) (c : Contaminant) :
    t.weight c.name = weights.get c := by
  rw [weight, h c.name, c.ofName?_name]
  rfl

theorem Lists.validate_eq_ok (h : t.Lists weights) :
    t.validate = .ok () ↔ ∀ c, AdmissibleWeight (weights.get c) := by
  constructor
  · intro hvalid c
    rw [← h.weight_name c]
    exact weight_admissible hvalid c.name
  · intro hweights
    rw [HazardTable.validate_eq_ok]
    intro e he
    have hfind := find?_of_mem he
    rw [h e.1, Option.map_eq_some_iff] at hfind
    obtain ⟨c, -, hc⟩ := hfind
    exact hc ▸ hweights c

end HazardTable

theorem weightOfCode_eq (h : t.Lists weights) (hcode : r.HasCode code) :
    weightOfCode weights code = t.weight r.contaminant := by
  rw [weightOfCode, Contaminant.ofCode?_eq_getElem?, hcode, HazardTable.weight, h]
  change _ = ((Measurement.tracked? r).map weights.get).getD HazardTable.defaultWeight
  cases r.tracked? <;> rfl

theorem estimate_numbers (h : t.Lists weights) (hcode : r.HasCode code) :
    (r.numbers code).estimate weights windowSeconds =
      (Impact.ofRow t windowSeconds r).estimate := by
  have hweight : weightOfCode weights (r.numbers code).contaminant = t.weight r.contaminant :=
    weightOfCode_eq h hcode
  rw [BareMeasurement.estimate, hweight]
  rfl

theorem estimateEach_numbers (h : t.Lists weights)
    (hcodes : List.Forall₂ Measurement.HasCode rows codes) (windowSeconds : Float)
    (out : KnEstimate) : estimateEach weights windowSeconds out (List.zipWith Measurement.numbers rows codes) =
      rows.map fun r => (.ok, some (Impact.ofRow t windowSeconds r).estimate) := by
  -- for every `out`, since each call finds there what the one before has written
  induction hcodes generalizing out with
  | nil => rfl
  | cons hcode _ ih =>
      rw [List.zipWith_cons_cons, estimateEach, estimateCall, ih, estimate_numbers h hcode,
        List.map_cons]

theorem estimateCall_of_missing {node : Option BareMeasurement} {weights : Option (Panel Float)}
    {out : Option KnEstimate} (h : node = none ∨ weights = none ∨ out = none) :
    estimateCall node weights windowSeconds out = (.err, out) := by
  rcases h with rfl | rfl | rfl
  · rfl
  · cases node <;> rfl
  · cases node <;> cases weights <;> rfl

theorem Impact.ofRows_eq_ok {impacts : List Impact} :
    ofRows t windowSeconds rows = .ok impacts ↔
      requireWindow windowSeconds = .ok () ∧ t.validate = .ok () ∧
        impacts = rows.map (ofRow t windowSeconds) := by
  rw [ofRows, bind_eq_ok]
  simp only [bind_eq_ok]
  constructor
  · rintro ⟨_, hwindow, _, hvalid, h⟩
    cases h
    exact ⟨hwindow, hvalid, rfl⟩
  · rintro ⟨hwindow, hvalid, rfl⟩
    exact ⟨(), hwindow, (), hvalid, rfl⟩

/-- Calls with the numbers of rows, one by one, succeed and write what the rows themselves are given by
the table, whatever the numbers are. The impacts of all rows at once are refused exactly for a window
that is not positive or a weight that a table may not hold, and else are these, each in its row's place
and under its names. A call that lacks an argument is refused and writes nothing. -/
theorem calls_agree (h : t.Lists weights) (hcodes : List.Forall₂ Measurement.HasCode rows codes)
    (windowSeconds : Float) (out : KnEstimate) :
    estimateEach weights windowSeconds out (List.zipWith Measurement.numbers rows codes) =
        rows.map (fun r => (.ok, some (Impact.ofRow t windowSeconds r).estimate)) ∧
      ((∃ impacts, Impact.ofRows t windowSeconds rows = .ok impacts) ↔
        0 < windowSeconds ∧ ∀ c, AdmissibleWeight (weights.get c)) ∧
      (∀ impacts, Impact.ofRows t windowSeconds rows = .ok impacts →
        impacts.map (fun i => (i.nodeId, i.contaminant)) =
            rows.map (fun r => (r.nodeId, r.contaminant)) ∧
          estimateEach weights windowSeconds out (List.zipWith Measurement.numbers rows codes) =
            impacts.map fun i => (.ok, some i.estimate)) ∧
      ∀ (node : Option BareMeasurement) (panel : Option (Panel Float)) (place : Option KnEstimate),
        node = none ∨ panel = none ∨ place = none →
          estimateCall node panel windowSeconds place = (.err, place) := by
  have heach := estimateEach_numbers h hcodes windowSeconds out
  refine ⟨heach, ?_, ?_, fun _ _ _ => estimateCall_of_missing⟩
  · simp only [Impact.ofRows_eq_ok, exists_and_left, exists_eq, and_true, h.validate_eq_ok,
      requireWindow, ite_eq_ok, gt_iff_lt]
  · intro impacts himpacts
    obtain ⟨-, -, rfl⟩ := Impact.ofRows_eq_ok.mp himpacts
    refine ⟨?_, ?_⟩
    · rw [List.map_map]
      rfl
    · rw [heach, List.map_map]
      rfl

/-- Weights that no table may hold: they are used for rows taken one by one all the same. -/
def wrongWeights : Panel Float := ⟨1, 1.5, -2, 1 / 0⟩

def phosphorusAndLead : List Measurement :=
  [ { (BareMeasurement.mk 10 2 0.5 4 0).row with nodeId := "N1", contaminant := "TP" },
    { (BareMeasurement.mk 1 3 2 1 0).row with nodeId := "N2", contaminant := "Lead" } ]

theorem calls_agree_wrongWeights :
    (HazardTable.ofPanel wrongWeights).Lists wrongWeights ∧
      List.Forall₂ Measurement.HasCode phosphorusAndLead [2, 200] ∧
      estimateEach wrongWeights 60 ⟨7, 7⟩ [⟨10, 2, 0.5, 4, 2⟩, ⟨1, 3, 2, 1, 200⟩] =
        phosphorusAndLead.map (fun r =>
          (.ok, some (Impact.ofRow (.ofPanel wrongWeights) 60 r).estimate)) := by
  have hcodes : List.Forall₂ Measurement.HasCode phosphorusAndLead [2, 200] :=
    .cons rfl (.cons rfl .nil)
  have hlists := HazardTable.lists_ofPanel wrongWeights
  exact ⟨hlists, hcodes, (calls_agree hlists hcodes 60 ⟨7, 7⟩).1⟩

end SiteSafety
