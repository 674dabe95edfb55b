import Mathlib.Algebra.Ring.Nat
import Mathlib.Data.List.Basic
import SiteSafety.Record.Layout

namespace SiteSafety

namespace FieldSpec

def Covers (s : FieldSpec) (i : ℕ) : Prop :=
  s.offset.toNat ≤ i ∧ i < s.offset.toNat + s.width.toNat

def slice (s : FieldSpec) (bytes : List UInt8) : List UInt8 :=
  (bytes.drop s.offset.toNat).take s.width.toNat

theorem slice_take (s : FieldSpec) (bytes : List UInt8) {n : ℕ}
    (h : s.offset.toNat + s.width.toNat ≤ n) : s.slice (bytes.take n) = s.slice bytes := by
  rw [slice, slice, List.drop_take, List.take_take, Nat.min_eq_left (by omega)]

theorem Covers.getElem?_eq {s : FieldSpec} {i : ℕ} (h : s.Covers i) (bytes : List UInt8) :
    bytes[i]? = (s.slice bytes)[i - s.offset.toNat]? := by
  obtain ⟨hlo, hhi⟩ := h
  rw [slice, List.getElem?_take_of_lt (by omega), List.getElem?_drop, Nat.add_sub_cancel' hlo]

end FieldSpec

namespace Layout

/-- The fields fill the positions from the first number up to the second, one after the other. -/
def Tiles : ℕ → List FieldSpec → ℕ → Prop
  | start, [], stop => start = stop
  | start, s :: ss, stop => s.offset.toNat = start ∧ Tiles (start + s.width.toNat) ss stop

variable {start stop i : ℕ} {s : FieldSpec} {fields : List FieldSpec}

theorem Tiles.le (h : Tiles start fields stop) : start ≤ stop := by
  induction fields generalizing start with
  | nil => exact Nat.le_of_eq h
  | cons s ss ih => exact Nat.le_trans (Nat.le_add_right _ _) (ih h.2)

theorem Tiles.exists_covers (h : Tiles start fields stop) (hlo : start ≤ i) (hhi : i < stop) :
    ∃ s ∈ fields, s.Covers i := by
  induction fields generalizing start with
  | nil =>
      have heq : start = stop := h
      omega
  | cons s ss ih =>
      obtain ⟨rfl, hss⟩ := h
      by_cases hi : i < s.offset.toNat + s.width.toNat
      · exact ⟨s, List.mem_cons_self, hlo, hi⟩
      · obtain ⟨t, ht, hcovers⟩ := ih hss (by omega)
        exact ⟨t, List.mem_cons_of_mem s ht, hcovers⟩

theorem Tiles.bounds (h : Tiles start fields stop) (hs : s ∈ fields) :
    start ≤ s.offset.toNat ∧ s.offset.toNat + s.width.toNat ≤ stop := by
  induction fields generalizing start with
  | nil => cases hs
  | cons t ss ih =>
      obtain ⟨rfl, hss⟩ := h
      rcases List.mem_cons.mp hs with rfl | hs
      · exact ⟨Nat.le_refl _, hss.le⟩
      · obtain ⟨hlo, hhi⟩ := ih hss hs
        exact ⟨by omega, hhi⟩

/-- As long as the end of the last field is a word, no sum of widths wraps around. -/
theorem contiguousFrom_iff {cursor : UInt64} {fields : List FieldSpec}
    (hsum : cursor.toNat + (fields.map (·.width.toNat)).sum < 2 ^ 64) :
    contiguousFrom cursor fields = true ↔
      Tiles cursor.toNat fields (cursor.toNat + (fields.map (·.width.toNat)).sum) := by
  induction fields generalizing cursor with
  | nil => exact iff_of_true rfl rfl
  | cons s ss ih =>
      rw [List.map_cons, List.sum_cons, ← Nat.add_assoc] at hsum ⊢
      have hadd : (cursor + s.width).toNat = cursor.toNat + s.width.toNat := by
        rw [UInt64.toNat_add, Nat.mod_eq_of_lt (by omega)]
      rw [contiguousFrom, Bool.and_eq_true, beq_iff_eq, ih (by omega), hadd, Tiles,
        UInt64.toNat_inj]

/-- Chunks of the widths of the fields, written one after the other, are where the fields are. -/
theorem Tiles.slice_flatMap {α : Type} {spec : α → FieldSpec} {chunk : α → List UInt8}
    {items : List α} {written : List UInt8} (h : Tiles written.length (items.map spec) stop)
    (hwidth : ∀ a ∈ items, (chunk a).length = (spec a).width.toNat) {a : α} (ha : a ∈ items) :
    (spec a).slice (written ++ items.flatMap chunk) = chunk a := by
  -- What is written so far has the length at which the next field is to start.
  induction items generalizing written with
  | nil => cases ha
  | cons b items ih =>
      obtain ⟨hb, hitems⟩ := h
      obtain ⟨hbwidth, hwidths⟩ := List.forall_mem_cons.mp hwidth
      rw [List.flatMap_cons]
      rcases List.mem_cons.mp ha with rfl | ha
      · rw [FieldSpec.slice, hb, ← hbwidth, List.drop_left, List.take_left]
      · rw [← List.append_assoc]
        rw [← hbwidth, ← List.length_append] at hitems
        exact ih hitems hwidths ha

end Layout

end SiteSafety
