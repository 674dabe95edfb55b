import Mathlib.Data.List.Basic
import SiteSafety.Proofs.Lookup
import SiteSafety.Proofs.Record.Layout

namespace SiteSafety

theorem FieldSpec.Covers.width_ne_zero {s : FieldSpec} {p : ℕ} (h : s.Covers p) : s.width ≠ 0 := by
  intro hzero
  obtain ⟨hlo, hhi⟩ := h
  rw [hzero] at hhi
  exact absurd hhi (not_lt.mpr hlo)

namespace Layout

def widthSum (fields : List FieldSpec) : ℕ := (fields.map (·.width.toNat)).sum

@[simp] theorem widthSum_nil : widthSum [] = 0 := rfl

@[simp] theorem widthSum_cons (s : FieldSpec) (ss : List FieldSpec) :
    widthSum (s :: ss) = s.width.toNat + widthSum ss := List.sum_cons

variable {start stop i j p : ℕ} {s t : FieldSpec} {fields : List FieldSpec}

theorem tiles_iff : Tiles start fields stop ↔ stop = start + widthSum fields ∧
    ∀ i s, fields[i]? = some s → s.offset.toNat = start + widthSum (fields.take i) := by
  induction fields generalizing start with
  | nil => simp [Tiles, eq_comm]
  | cons t ts ih =>
      rw [Tiles, ih, widthSum_cons, ← Nat.add_assoc]
      constructor
      · rintro ⟨ht, hstop, hts⟩
        refine ⟨hstop, fun i s hs => ?_⟩
        cases i with
        | zero => simp_all
        | succ i => simpa [Nat.add_assoc] using hts i s hs
      · rintro ⟨hstop, hall⟩
        refine ⟨by simpa using hall 0 t rfl, hstop, fun i s hs => ?_⟩
        simpa [Nat.add_assoc] using hall (i + 1) s hs

theorem Tiles.unique_covers (h : Tiles start fields stop) (hs : fields[i]? = some s)
    (ht : fields[j]? = some t) (hsp : s.Covers p) (htp : t.Covers p) : i = j := by
  induction fields generalizing start i j with
  | nil => cases hs
  | cons u us ih =>
      obtain ⟨rfl, hus⟩ := h
      have hbehind {k : ℕ} {v : FieldSpec} (hv : us[k]? = some v) (hup : u.Covers p) :
          ¬ v.Covers p := by
        intro hvp
        have hle := (hus.bounds (List.mem_of_getElem? hv)).1
        exact absurd hup.2 (not_lt.mpr (le_trans hle hvp.1))
      cases i with
      | zero =>
          cases hs
          cases j with
          | zero => rfl
          | succ j => exact absurd htp (hbehind ht hsp)
      | succ i =>
          cases j with
          | zero =>
              cases ht
              exact absurd hsp (hbehind hs htp)
          | succ j => exact congrArg Nat.succ (ih hus hs ht)

theorem toNat_foldl_width {total : UInt64} (h : total.toNat + widthSum fields < 2 ^ 64) :
    (fields.foldl (fun total f => total + f.width) total).toNat = total.toNat + widthSum fields := by
  induction fields generalizing total with
  | nil => rfl
  | cons s ss ih =>
      rw [widthSum_cons, ← Nat.add_assoc] at h ⊢
      have hadd : (total + s.width).toNat = total.toNat + s.width.toNat := by
        rw [UInt64.toNat_add, Nat.mod_eq_of_lt (by omega)]
      rw [List.foldl_cons, ih (by rwa [hadd]), hadd]

theorem toNat_length {l : Layout} (h : widthSum l.fields < 2 ^ 64) :
    l.length.toNat = widthSum l.fields := by
  have hsum : (0 : UInt64).toNat + widthSum l.fields < 2 ^ 64 := by simpa using h
  have hfold := toNat_foldl_width hsum
  rwa [UInt64.toNat_zero, Nat.zero_add] at hfold

theorem isContiguous_iff {l : Layout} (h : widthSum l.fields < 2 ^ 64) :
    l.isContiguous = true ↔ Tiles 0 l.fields (widthSum l.fields) := by
  have hsum : (0 : UInt64).toNat + widthSum l.fields < 2 ^ 64 := by simpa using h
  have hiff := contiguousFrom_iff hsum
  rwa [← widthSum, UInt64.toNat_zero, Nat.zero_add] at hiff

theorem map_findIdxs {α : Type} (q : α → Bool) (l : List α) :
    (l.findIdxs q).map (l[·]?) = (l.filter q).map some := by
  refine List.ext_getElem ?_ fun i hi hi' => ?_
  · simp only [List.length_map, List.length_findIdxs, List.countP_eq_length_filter]
  · rw [List.length_map] at hi hi'
    rw [List.getElem_map, List.getElem_map, List.getElem_filter_eq_getElem_getElem_findIdxs hi']
    exact List.getElem?_eq_getElem _

theorem exists_wordPlaces (l : Layout) : ∃ places : List ℕ, places.Pairwise (· < ·) ∧
    (∀ i, i ∈ places ↔ ∃ s, l.fields[i]? = some s ∧ s.kind = .word) ∧
    places.map (l.fields[·]?) = l.wordFields.map some := by
  refine ⟨l.fields.findIdxs (·.kind == .word), List.pairwise_findIdxs, fun i => ?_,
    map_findIdxs _ _⟩
  simp [List.getElem?_eq_some_iff]

/-- The queries on a layout whose end is a word. It is contiguous exactly if every field stands where the
widths before it add up to, and then each byte below its length, which is the sum of all widths, is
covered by exactly one field. A name stands for the first field that has it. -/
theorem queries_exact (l : Layout) (h : widthSum l.fields < 2 ^ 64) :
    l.length.toNat = widthSum l.fields ∧
    (l.isContiguous = true ↔
      ∀ i s, l.fields[i]? = some s → s.offset.toNat = widthSum (l.fields.take i)) ∧
    (l.isContiguous = true →
      (∀ p < l.length.toNat, ∃ (i : ℕ) (s : FieldSpec), l.fields[i]? = some s ∧ s.width ≠ 0 ∧
        s.Covers p ∧ ∀ (j : ℕ) (t : FieldSpec), l.fields[j]? = some t → t.Covers p → j = i) ∧
      ∀ s ∈ l.fields, s.offset.toNat + s.width.toNat ≤ l.length.toNat) ∧
    (∀ name s, l.field? name = some s ↔ ∃ i, FirstAt (·.name = name) l.fields i s) ∧
    (∀ name, l.field? name = none ↔ ∀ s ∈ l.fields, s.name ≠ name) ∧
    ∃ places : List ℕ, places.Pairwise (· < ·) ∧
      (∀ i, i ∈ places ↔ ∃ s, l.fields[i]? = some s ∧ s.kind = .word) ∧
      places.map (l.fields[·]?) = l.wordFields.map some := by
  refine ⟨toNat_length h, ?_, ?_, ?_, ?_, exists_wordPlaces l⟩
  · simp only [isContiguous_iff h, tiles_iff, Nat.zero_add, true_and]
  · intro hcontiguous
    have htiles := (isContiguous_iff h).mp hcontiguous
    rw [toNat_length h]
    refine ⟨fun p hp => ?_, fun s hs => (htiles.bounds hs).2⟩
    obtain ⟨s, hs, hcovers⟩ := htiles.exists_covers (Nat.zero_le p) hp
    obtain ⟨i, hi⟩ := List.mem_iff_getElem?.mp hs
    exact ⟨i, s, hi, hcovers.width_ne_zero, hcovers, fun j t hj ht =>
      htiles.unique_covers hj hi ht hcovers⟩
  · intro name s
    exact find?_eq_some_iff fun _ => beq_iff_eq
  · intro name
    simp [field?]

def doubledLayout : Layout := ⟨7, [⟨"flag", 0, 2, .byte⟩, ⟨"gap", 2, 0, .word⟩, ⟨"flag", 2, 3, .word⟩]⟩

theorem queries_exact_doubledLayout :
    widthSum doubledLayout.fields < 2 ^ 64 ∧ doubledLayout.isContiguous = true ∧
      doubledLayout.length.toNat = 5 ∧
      (∃ (i : ℕ) (s : FieldSpec), doubledLayout.fields[i]? = some s ∧ s.width ≠ 0 ∧ s.Covers 2 ∧
        ∀ (j : ℕ) (t : FieldSpec), doubledLayout.fields[j]? = some t → t.Covers 2 → j = i) ∧
      ∃ i, FirstAt (·.name = "flag") doubledLayout.fields i ⟨"flag", 0, 2, .byte⟩ := by
  have hsum : widthSum doubledLayout.fields < 2 ^ 64 := by decide
  have hcontiguous : doubledLayout.isContiguous = true := by decide
  obtain ⟨hlength, -, htiles, hfield, -⟩ := queries_exact doubledLayout hsum
  have hlength' : doubledLayout.length.toNat = 5 := hlength.trans (by decide)
  have hfive := (htiles hcontiguous).1
  rw [hlength'] at hfive
  exact ⟨hsum, hcontiguous, hlength', hfive 2 (by decide), (hfield "flag" _).mp (by decide)⟩

end Layout

end SiteSafety
