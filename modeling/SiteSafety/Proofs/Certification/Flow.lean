import SiteSafety.Proofs.Certification.Cycle

namespace SiteSafety

def nodesOf (rows : List Measurement) : List String := rows.map (·.nodeId)

/-- The rows whose node stands in no earlier row. -/
def leadingRows (rows : List Measurement) : List Measurement :=
  (rows.zipIdx.filter fun (r, i) => r.nodeId ∉ nodesOf (rows.take i)).map Prod.fst

variable {seen : List String} {rows : List Measurement} {r : Measurement}

@[simp] theorem nodesOf_cons (r : Measurement) (rows : List Measurement) :
    nodesOf (r :: rows) = r.nodeId :: nodesOf rows := rfl

theorem firstRows_cons_of_mem (h : r.nodeId ∈ seen) :
    firstRows seen (r :: rows) = firstRows seen rows := by
  rw [firstRows, if_pos (List.contains_iff_mem.mpr h)]

theorem firstRows_cons_of_not_mem (h : r.nodeId ∉ seen) :
    firstRows seen (r :: rows) = r :: firstRows (r.nodeId :: seen) rows := by
  rw [firstRows, if_neg (mt List.contains_iff_mem.mp h)]

theorem firstRows_congr {seen' : List String} (h : ∀ id, id ∈ seen ↔ id ∈ seen') :
    firstRows seen rows = firstRows seen' rows := by
  induction rows generalizing seen seen' with
  | nil => rfl
  | cons r rows ih =>
      by_cases hr : r.nodeId ∈ seen
      · rw [firstRows_cons_of_mem hr, firstRows_cons_of_mem ((h _).mp hr), ih h]
      · have hcons (id : String) : id ∈ r.nodeId :: seen ↔ id ∈ r.nodeId :: seen' := by
          rw [List.mem_cons, List.mem_cons, h id]
        rw [firstRows_cons_of_not_mem hr, firstRows_cons_of_not_mem (mt (h _).mpr hr), ih hcons]

theorem firstRows_append (a b : List Measurement) :
    firstRows seen (a ++ b) = firstRows seen a ++ firstRows (nodesOf a ++ seen) b := by
  induction a generalizing seen with
  | nil => rfl
  | cons r a ih =>
      rw [List.cons_append, nodesOf_cons]
      -- Either way the nodes of the first part are seen in another order, or one of them twice.
      by_cases hr : r.nodeId ∈ seen
      · have hseen (id : String) :
            id ∈ nodesOf a ++ seen ↔ id ∈ r.nodeId :: nodesOf a ++ seen := by
          grind
        rw [firstRows_cons_of_mem hr, firstRows_cons_of_mem hr, ih, firstRows_congr hseen]
      · have hseen (id : String) :
            id ∈ nodesOf a ++ r.nodeId :: seen ↔ id ∈ r.nodeId :: nodesOf a ++ seen := by
          grind
        rw [firstRows_cons_of_not_mem hr, firstRows_cons_of_not_mem hr, ih, firstRows_congr hseen]
        rfl

theorem firstRows_eq_nil (h : ∀ r ∈ rows, r.nodeId ∈ seen) : firstRows seen rows = [] := by
  induction rows with
  | nil => rfl
  | cons r rows ih =>
      obtain ⟨hr, hrows⟩ := List.forall_mem_cons.mp h
      rw [firstRows_cons_of_mem hr, ih hrows]

/-- With the rows that were scanned before, the scan of the others keeps the leading ones. -/
theorem firstRows_eq_filter (before : List Measurement)
    (h : ∀ id, id ∈ seen ↔ id ∈ nodesOf before) :
    firstRows seen rows = ((rows.zipIdx before.length).filter fun (r, i) =>
      r.nodeId ∉ nodesOf ((before ++ rows).take i)).map Prod.fst := by
  -- The row at hand moves to the rows before, so indices and prefixes are those of one list throughout.
  induction rows generalizing seen before with
  | nil => rfl
  | cons r rows ih =>
      have hbefore : (before ++ r :: rows).take before.length = before := List.take_left
      have happend : before ++ r :: rows = (before ++ [r]) ++ rows := by
        rw [List.append_assoc, List.singleton_append]
      have hlength : before.length + 1 = (before ++ [r]).length := by
        rw [List.length_append, List.length_singleton]
      have hnodes : nodesOf (before ++ [r]) = nodesOf before ++ [r.nodeId] := List.map_append
      rw [List.zipIdx_cons, List.filter_cons]
      simp only [hbefore, ← h]
      by_cases hr : r.nodeId ∈ seen
      · have hseen (id : String) : id ∈ seen ↔ id ∈ nodesOf (before ++ [r]) := by
          grind
        rw [firstRows_cons_of_mem hr, ih (before ++ [r]) hseen, happend, hlength, if_neg]
        rw [decide_eq_true_iff, not_not]
        exact hr
      · have hseen (id : String) : id ∈ r.nodeId :: seen ↔ id ∈ nodesOf (before ++ [r]) := by
          grind
        rw [firstRows_cons_of_not_mem hr, ih (before ++ [r]) hseen, happend, hlength, if_pos,
          List.map_cons]
        rw [decide_eq_true_iff]
        exact hr

theorem firstRows_eq_leading (rows : List Measurement) : firstRows [] rows = leadingRows rows :=
  firstRows_eq_filter [] fun _ => Iff.rfl

theorem mem_nodesOf_firstRows {id : String} :
    id ∈ nodesOf (firstRows seen rows) ↔ id ∈ nodesOf rows ∧ id ∉ seen := by
  induction rows generalizing seen with
  | nil => simp [nodesOf, firstRows]
  | cons r rows ih =>
      by_cases hr : r.nodeId ∈ seen
      · rw [firstRows_cons_of_mem hr, ih, nodesOf_cons]
        grind
      · rw [firstRows_cons_of_not_mem hr, nodesOf_cons, nodesOf_cons, List.mem_cons, ih]
        grind

theorem nodup_nodesOf_firstRows (seen : List String) (rows : List Measurement) :
    (nodesOf (firstRows seen rows)).Nodup := by
  induction rows generalizing seen with
  | nil => exact List.nodup_nil
  | cons r rows ih =>
      by_cases hr : r.nodeId ∈ seen
      · rw [firstRows_cons_of_mem hr]
        exact ih seen
      · rw [firstRows_cons_of_not_mem hr, nodesOf_cons]
        refine List.nodup_cons.mpr ⟨fun hmem => ?_, ih _⟩
        exact (mem_nodesOf_firstRows.mp hmem).2 List.mem_cons_self

theorem totalFlow_append (a b : List Measurement) : totalFlow (a ++ b) =
    (firstRows (nodesOf a) b).foldl (fun sum r => sum + r.flow) (totalFlow a) := by
  rw [totalFlow, firstRows_append, List.append_nil, List.foldl_append]
  rfl

/-- The flow is the sum of the flows of the leading rows, in row order, one for each node. What other rows
state does not matter, and neither does whether they are there. -/
theorem totalFlow_once_per_node :
    (∀ rows, totalFlow rows = ((leadingRows rows).map (·.flow)).foldl (· + ·) (-0.0) ∧
      (nodesOf (leadingRows rows)).Nodup ∧
      ∀ id, id ∈ nodesOf (leadingRows rows) ↔ id ∈ nodesOf rows) ∧
    (∀ a b, (∀ r ∈ b, r.nodeId ∈ nodesOf a) → totalFlow (a ++ b) = totalFlow a) ∧
    (∀ before r after, r.nodeId ∈ nodesOf before →
      totalFlow (before ++ r :: after) = totalFlow (before ++ after)) := by
  refine ⟨?_, ?_, ?_⟩
  · intro rows
    rw [← firstRows_eq_leading]
    refine ⟨?_, nodup_nodesOf_firstRows [] rows, fun id => ?_⟩
    · rw [List.foldl_map]
      rfl
    · rw [mem_nodesOf_firstRows, and_iff_left List.not_mem_nil]
  · intro a b h
    rw [totalFlow_append, firstRows_eq_nil h, List.foldl_nil]
  · intro before r after h
    rw [totalFlow_append, totalFlow_append, firstRows_cons_of_mem h]

theorem totalFlow_once_per_node_restated :
    let a := { Measurement.plain .tp 0 with nodeId := "A", flow := 1 }
    let b := { Measurement.plain .tp 0 with nodeId := "B", flow := 2 }
    let again := { a with flow := 0 / 0 }
    totalFlow ([a, b] ++ [again]) = 3 ∧ totalFlow ([a] ++ again :: [b]) = 3 := by
  intro a b again
  obtain ⟨-, happend, hinsert⟩ := totalFlow_once_per_node
  have hsum : totalFlow [a, b] = 3 := by decide +kernel
  constructor
  · rw [happend [a, b] [again] (by simp [a, again]), hsum]
  · rw [hinsert [a] again [b] (by simp [a, again])]
    exact hsum

end SiteSafety
