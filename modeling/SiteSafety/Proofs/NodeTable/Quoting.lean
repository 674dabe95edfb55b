import SiteSafety.Proofs.Csv
import SiteSafety.Proofs.NodeTable

namespace SiteSafety.NodeTable

open Csv (LineEnd WrittenRecord tableChars openTableChars)

/-- A row on its own line: each number is spelled in some way that it is read from, blanks around it
allowed, and notes are written if there are any. -/
structure Line where
  row : Measurement
  numerals : List String
  reads : List.Forall₂
    (fun c text => Decimal.numeral? (Text.trim text.toList) = some (NumericColumn.number c row))
    numericColumns numerals
  lineEnd : LineEnd

namespace Line

variable (l : Line)

def fields : List String := textColumns.map (·.text l.row) ++ l.numerals ++ l.row.notes.toList

def written : WrittenRecord := ⟨l.fields, l.lineEnd⟩

theorem length_numerals : l.numerals.length = numericColumns.length := l.reads.length_eq.symm

theorem length_texts_numerals :
    (textColumns.map (·.text l.row) ++ l.numerals).length = columns := by
  rw [List.length_append, length_numerals]
  rfl

theorem columns_le : columns ≤ l.fields.length := by
  rw [fields, List.length_append, length_texts_numerals]
  exact Nat.le_add_right _ _

theorem fields_ne_nil : l.fields ≠ [] := by
  intro h
  have hle := l.columns_le
  rw [h] at hle
  exact absurd hle (by decide)

theorem getElem?_fields {i : ℕ} (hi : i < numericColumns.length) :
    l.fields[numericColumns[i].index]? = l.numerals[i]? := by
  have hindex : ∀ i (h : i < numericColumns.length), numericColumns[i].index = firstNumeric + i := by
    decide
  have hlt : firstNumeric + i < columns := Nat.add_lt_add_left hi firstNumeric
  have hle : (textColumns.map (·.text l.row)).length ≤ firstNumeric + i := Nat.le_add_right _ _
  rw [hindex i hi, fields, List.getElem?_append_left (by rwa [length_texts_numerals]),
    List.getElem?_append_right hle]
  exact congrArg (l.numerals[·]?) (Nat.add_sub_cancel_left firstNumeric i)

theorem reads_fields : Reads l.fields l.row where
  texts := by
    simp only [textColumns, List.forall_mem_cons]
    exact ⟨rfl, rfl, rfl, rfl, rfl, rfl, List.forall_mem_nil _⟩
  numbers := by
    intro c hc
    obtain ⟨i, hi, rfl⟩ := List.getElem_of_mem hc
    have hi' : i < l.numerals.length := l.length_numerals ▸ hi
    refine ⟨l.numerals[i], ?_, l.reads.get hi hi'⟩
    rw [l.getElem?_fields hi, List.getElem?_eq_getElem hi']
  notes := by
    have hlength := l.length_texts_numerals
    change _ = l.fields[columns]?
    rw [fields, List.getElem?_append_right hlength.le, hlength]
    cases l.row.notes <;> rfl

theorem yields {raw : Csv.RawRecord} (h : raw.fields = l.written.fields.map Text.encode) :
    Yields raw (.row l.row) :=
  .row (Csv.RawRecord.texts_of_encode h) l.columns_le l.reads_fields

end Line

theorem ofEntries_rows (rows : List Measurement) :
    Loaded.ofEntries (rows.map .row) = ⟨rows, 0⟩ := by
  have hrows : (rows.map Entry.row).filterMap rowOf? = rows := by
    rw [List.filterMap_map]
    exact List.filterMap_some
  rw [Loaded.ofEntries, hrows, List.length_map, Nat.sub_self]

theorem load_of_fields {bytes : List UInt8} {header : WrittenRecord} {lines : List Line}
    (h : (Csv.records bytes).map (·.fields) =
      (header :: lines.map Line.written).map (·.fields.map Text.encode)) :
    load bytes = .ok ⟨lines.map (·.row), 0⟩ := by
  cases hrecords : Csv.records bytes with
  | nil =>
      rw [hrecords] at h
      cases h
  | cons first rest =>
      rw [hrecords, List.map_cons, List.map_cons, List.cons.injEq, List.map_map] at h
      obtain ⟨hheader, hrest⟩ := h
      have hyields : List.Forall₂ Yields rest ((lines.map (·.row)).map .row) := by
        rw [← List.forall₂_eq_eq_eq, List.forall₂_map_left_iff, List.forall₂_map_right_iff] at hrest
        rw [List.map_map, List.forall₂_map_right_iff]
        exact hrest.imp fun raw l hfields => l.yields hfields
      rw [load_eq_ok hrecords (Csv.RawRecord.texts_of_encode hheader)]
      exact ⟨_, hyields, (ofEntries_rows _).symm⟩

/-- A table whose fields are all quoted is loaded as the rows it was written from, none of them skipped,
also if nothing ends the last line. -/
theorem load_quoted (header : WrittenRecord) (hheader : header.fields ≠ []) (lines : List Line) :
    load (Text.encode (String.ofList (tableChars (header :: lines.map Line.written)))) =
      .ok ⟨lines.map (·.row), 0⟩ ∧
    load (Text.encode (String.ofList (openTableChars (header :: lines.map Line.written)))) =
      .ok ⟨lines.map (·.row), 0⟩ := by
  have htable : ∀ r ∈ header :: lines.map Line.written, r.fields ≠ [] := by
    refine List.forall_mem_cons.mpr ⟨hheader, List.forall_mem_map.mpr fun l _ => ?_⟩
    exact l.fields_ne_nil
  exact ⟨load_of_fields (Csv.records_tableChars htable),
    load_of_fields (Csv.records_openTableChars htable)⟩

/-- Texts with everything that separates, in a row without notes and in one with empty ones. -/
def awkwardLines : List Line :=
  [ { row := ⟨"a,b", "\"", "", "TP\r\n", ",\"\",", "µg/L", 0.5, 0.05, 1, 1, 0, 0, 0, none⟩
      numerals := [" 0.5", "5e-2", "1.0", "+1", "0", ".0", "0\t"]
      reads := by decide +kernel
      lineEnd := .crLf },
    { row := ⟨"", "", "", "", "", "", 0, 0, 0, 0, 0, 0, 0, some ""⟩
      numerals := ["0", "0", "0", "0", "0", "0", "0"]
      reads := by decide +kernel
      lineEnd := .lf } ]

theorem load_quoted_awkward :
    load (Text.encode (String.ofList
      (openTableChars (⟨["id\n"], .lf⟩ :: awkwardLines.map Line.written)))) =
      .ok ⟨awkwardLines.map (·.row), 0⟩ :=
  (load_quoted ⟨["id\n"], .lf⟩ (List.cons_ne_nil _ _) awkwardLines).2

end SiteSafety.NodeTable
