import SiteSafety.Proofs.Csv.Lines
import SiteSafety.Proofs.NodeTable

namespace SiteSafety.NodeTable

open Csv (BeginsBehind Opening content lineBehind lineFeed carriageReturn markLength)

variable {bytes : List UInt8} {line column : ℕ} {name value : String}

theorem exists_refused (h : load bytes = .error (.badNumber line column name value)) :
    ∃ header seen raw later, Csv.records bytes = header :: seen ++ raw :: later ∧
      (∀ r ∈ seen, Accepts r) ∧ Refuses raw (.badNumber line column name value) := by
  cases hrecords : Csv.records bytes with
  | nil =>
      rw [load, body, hrecords] at h
      cases h
  | cons header rest =>
      cases hheader : header.texts with
      | error cause =>
          rw [load, body, hrecords] at h
          change ((textsOf header).map _ >>= _) = _ at h
          rw [textsOf, hheader] at h
          cases h
      | ok names =>
          obtain ⟨seen, raw, later, rfl, hseen, hraw⟩ := (load_eq_error hrecords hheader).mp h
          exact ⟨header, seen, raw, later, rfl, hseen, hraw⟩

theorem Refuses.line_eq {raw : Csv.RawRecord}
    (h : Refuses raw (.badNumber line column name value)) : raw.position.line = line := by
  cases h
  rfl

/-- A number that cannot be read is told of with the line on which the record before has ended, the
header being one. That is the line of the first byte of its own record exactly if no line feed stands
between the two, as is so where no line is empty and none ends in a carriage return. -/
theorem badNumber_line (h : load bytes = .error (.badNumber line column name value)) :
    ∃ header seen raw later before gap,
      Csv.records bytes = header :: seen ++ raw :: later ∧ (∀ r ∈ seen, Accepts r) ∧
      Refuses raw (.badNumber line column name value) ∧
      Opening (markLength bytes) (content bytes) before gap (seen.length + 1) ∧
      (∀ passed, BeginsBehind (markLength bytes) (content bytes) passed (seen.length + 1) →
        passed = before ++ gap) ∧
      line = lineBehind before ∧ lineBehind (before ++ gap) = line + gap.count lineFeed ∧
      (line = lineBehind (before ++ gap) ↔ lineFeed ∉ gap) ∧
      (carriageReturn ∉ bytes → ¬ [lineFeed, lineFeed] <:+: bytes →
        line = lineBehind (before ++ gap)) := by
  obtain ⟨header, seen, raw, later, hrecords, hseen, hraw⟩ := exists_refused h
  have hplace : (Csv.records bytes)[seen.length + 1]? = some raw := by
    rw [hrecords]
    simp
  obtain ⟨before, gap, hopening, hline⟩ := Csv.placed_of_records hplace
  rw [hraw.line_eq] at hline
  have hbehind : lineBehind (before ++ gap) = line + gap.count lineFeed := by
    rw [Csv.lineBehind_append, hline]
  have hexact : line = lineBehind (before ++ gap) ↔ lineFeed ∉ gap := by
    rw [hbehind, ← List.count_eq_zero]
    omega
  refine ⟨header, seen, raw, later, before, gap, hrecords, hseen, hraw, hopening,
    fun passed hpassed => hpassed.unique hopening.begins, hline, hbehind, hexact, ?_⟩
  intro hreturn hempty
  have hsuffix : content bytes <:+ bytes := List.drop_suffix _ _
  have hgap := hopening.gap_eq_nil (Nat.succ_pos _) (fun hmem => hreturn (hsuffix.subset hmem))
    fun hpair => hempty (hpair.trans hsuffix.isInfix)
  exact hexact.mpr (hgap ▸ List.not_mem_nil)

def unevenHead : List UInt8 := Text.encode "\"id\nor name\"\r\n\n"

def badRow : List UInt8 := Text.encode "N1,,,TP,,,?,0,0,0,0,0,0\r\n"

def unevenTable : List UInt8 := Csv.byteOrderMark ++ unevenHead ++ badRow

theorem badNumber_line_unevenTable :
    load unevenTable = .error (.badNumber 2 6 "baseline_cin" "?") ∧
      BeginsBehind (markLength unevenTable) (content unevenTable) unevenHead 1 ∧
      lineBehind unevenHead = 4 ∧
      ∃ before gap, unevenHead = before ++ gap ∧ lineBehind before = 2 ∧ gap.count lineFeed = 2 := by
  have hload : load unevenTable = .error (.badNumber 2 6 "baseline_cin" "?") := by decide +kernel
  have hbegins : BeginsBehind (markLength unevenTable) (content unevenTable) unevenHead 1 :=
    ⟨by decide +kernel, by decide +kernel, 78, badRow.tail, by decide +kernel, rfl⟩
  have hlength : (Csv.records unevenTable).length = 2 := by decide +kernel
  obtain ⟨header, seen, raw, later, before, gap, hrecords, -, -, -, hunique, hline, hbehind, -⟩ :=
    badNumber_line hload
  have hseen : seen = [] := by
    rw [hrecords] at hlength
    simp only [List.length_append, List.length_cons] at hlength
    exact List.length_eq_zero_iff.mp (by omega)
  subst hseen
  have hhead := hunique _ hbegins
  have hfour : lineBehind unevenHead = 4 := by decide +kernel
  rw [← hhead, hfour] at hbehind
  exact ⟨hload, hbegins, hfour, before, gap, hhead, hline.symm, by omega⟩

def returnHead : List UInt8 := Text.encode "id\r\n"

/-- With carriage returns the only row of a table, on its second line, is said to be on the first. -/
theorem badNumber_line_too_small :
    load (returnHead ++ badRow) = .error (.badNumber 1 6 "baseline_cin" "?") ∧
      (Csv.records (returnHead ++ badRow)).length = 2 ∧
      BeginsBehind (markLength (returnHead ++ badRow)) (content (returnHead ++ badRow)) returnHead 1 ∧
      lineBehind returnHead = 2 := by
  refine ⟨by decide +kernel, by decide +kernel, ?_, by decide +kernel⟩
  exact ⟨by decide +kernel, by decide +kernel, 78, badRow.tail, by decide +kernel, rfl⟩

end SiteSafety.NodeTable
