import SiteSafety.NodeTable
import SiteSafety.Report
import SiteSafety.Proofs.Certification.Cycle

namespace SiteSafety.NodeTable

structure TextColumn where
  index : ℕ
  text : Measurement → String

structure NumericColumn where
  index : ℕ
  name : String
  number : Measurement → Float

def textColumns : List TextColumn :=
  [⟨0, (·.nodeId)⟩, ⟨1, (·.location)⟩, ⟨2, (·.system)⟩, ⟨3, (·.contaminant)⟩, ⟨4, (·.parameter)⟩,
    ⟨5, (·.unit)⟩]

def numericColumns : List NumericColumn :=
  [ ⟨6, "baseline_cin", (·.inlet)⟩, ⟨7, "baseline_cout", (·.outlet)⟩, ⟨8, "q_cms", (·.flow)⟩,
    ⟨9, "cref", (·.reference)⟩, ⟨10, "wsup", (·.supply)⟩,
    ⟨11, "eco_impact_score", (·.ecoImpactScore)⟩, ⟨12, "karma_per_unit", (·.karmaPerUnit)⟩ ]

def NumericColumn.Readable (c : NumericColumn) (fields : List String) : Prop :=
  ∃ text x, fields[c.index]? = some text ∧ Decimal.numeral? (Text.trim text.toList) = some x

structure Reads (fields : List String) (r : Measurement) : Prop where
  texts : ∀ c ∈ textColumns, fields[c.index]? = some (c.text r)
  numbers : ∀ c ∈ numericColumns, ∃ text, fields[c.index]? = some text ∧
    Decimal.numeral? (Text.trim text.toList) = some (c.number r)
  notes : r.notes = fields[13]?

/-- What is made of a record that does not refuse its table. -/
inductive Yields (raw : Csv.RawRecord) : Entry → Prop
  | short {fields : List String} (h : raw.texts = .ok fields) (hshort : fields.length < columns) :
      Yields raw (.short raw.position.line fields.length)
  | row {fields : List String} {r : Measurement} (h : raw.texts = .ok fields)
      (hlong : columns ≤ fields.length) (hr : Reads fields r) : Yields raw (.row r)

/-- A record that does not refuse its table: a short one with whatever in it, or one with numbers where
they belong. -/
def Accepts (raw : Csv.RawRecord) : Prop :=
  ∃ fields, raw.texts = .ok fields ∧
    (columns ≤ fields.length → ∀ c ∈ numericColumns, c.Readable fields)

/-- A record that refuses its table, and how: by what is no text, or by the first of its numeric columns
that holds no number. -/
inductive Refuses (raw : Csv.RawRecord) : LoadError → Prop
  | text {cause : Csv.InvalidText} (h : raw.texts = .error cause) : Refuses raw (.invalidText cause)
  | number {fields : List String} {c : NumericColumn} {text : String} (h : raw.texts = .ok fields)
      (hlong : columns ≤ fields.length) (hc : c ∈ numericColumns)
      (hfirst : ∀ b ∈ numericColumns, b.index < c.index → b.Readable fields)
      (htext : fields[c.index]? = some text)
      (hbad : Decimal.numeral? (Text.trim text.toList) = none) :
      Refuses raw (.badNumber raw.position.line c.index c.name text)

variable {line i : ℕ} {fields : List String} {r : Measurement} {x : Float} {e : LoadError}
  {raw : Csv.RawRecord} {entry : Entry}

theorem numberAt_eq_ok : numberAt line fields i = .ok x ↔
    Decimal.numeral? (Text.trim (textAt fields i).toList) = some x := by
  rw [numberAt, readNumber]
  cases Decimal.numeral? (Text.trim (textAt fields i).toList) <;> simp

theorem numberAt_eq_error : numberAt line fields i = .error e ↔
    Decimal.numeral? (Text.trim (textAt fields i).toList) = none ∧
      e = .badNumber line i (numericNames.getD (i - firstNumeric) "") (textAt fields i) := by
  rw [numberAt, readNumber]
  cases Decimal.numeral? (Text.trim (textAt fields i).toList) <;> simp [eq_comm]

theorem index_lt {c : NumericColumn} (hc : c ∈ numericColumns) : c.index < columns := by
  have h : ∀ c ∈ numericColumns, c.index < columns := by decide
  exact h c hc

theorem textIndex_lt {c : TextColumn} (hc : c ∈ textColumns) : c.index < columns := by
  have h : ∀ c ∈ textColumns, c.index < columns := by decide
  exact h c hc

theorem name_eq {c : NumericColumn} (hc : c ∈ numericColumns) :
    numericNames.getD (c.index - firstNumeric) "" = c.name := by
  have h : ∀ c ∈ numericColumns, numericNames.getD (c.index - firstNumeric) "" = c.name := by decide
  exact h c hc

theorem ordered : numericColumns.Pairwise fun b c => b.index < c.index := by decide

theorem getElem?_eq_textAt (hlong : columns ≤ fields.length) (h : i < columns) :
    fields[i]? = some (textAt fields i) := by
  have hi := h.trans_le hlong
  rw [textAt, List.getD_eq_getElem?_getD, List.getElem?_eq_getElem hi, Option.getD_some]

theorem exists_field_iff (hlong : columns ≤ fields.length) {p : String → Prop} (h : i < columns) :
    (∃ text, fields[i]? = some text ∧ p text) ↔ p (textAt fields i) := by
  rw [getElem?_eq_textAt hlong h]
  simp only [Option.some.injEq, exists_eq_left']

theorem readable_iff (hlong : columns ≤ fields.length) {c : NumericColumn} (hc : c ∈ numericColumns) :
    c.Readable fields ↔ ∃ x, numberAt line fields c.index = .ok x := by
  simp only [NumericColumn.Readable, exists_and_left, numberAt_eq_ok]
  exact exists_field_iff hlong (index_lt hc)

theorem reads_iff (line : ℕ) (hlong : columns ≤ fields.length) : Reads fields r ↔
    (∀ c ∈ textColumns, c.text r = textAt fields c.index) ∧
      (∀ c ∈ numericColumns, numberAt line fields c.index = .ok (c.number r)) ∧
      r.notes = fields[13]? := by
  have htexts (c : TextColumn) (hc : c ∈ textColumns) :
      fields[c.index]? = some (c.text r) ↔ c.text r = textAt fields c.index := by
    rw [getElem?_eq_textAt hlong (textIndex_lt hc), Option.some.injEq, eq_comm]
  have hnumbers (c : NumericColumn) (hc : c ∈ numericColumns) :
      (∃ text, fields[c.index]? = some text ∧
        Decimal.numeral? (Text.trim text.toList) = some (c.number r)) ↔
        numberAt line fields c.index = .ok (c.number r) := by
    rw [exists_field_iff hlong (index_lt hc), numberAt_eq_ok]
  constructor
  · intro h
    exact ⟨fun c hc => (htexts c hc).mp (h.texts c hc), fun c hc => (hnumbers c hc).mp (h.numbers c hc),
      h.notes⟩
  · rintro ⟨ht, hn, hnotes⟩
    exact ⟨fun c hc => (htexts c hc).mpr (ht c hc), fun c hc => (hnumbers c hc).mpr (hn c hc), hnotes⟩

theorem readRow_eq_ok (hlong : columns ≤ fields.length) :
    readRow line fields = .ok r ↔ Reads fields r := by
  rw [reads_iff line hlong]
  simp only [readRow, bind_eq_ok, textColumns, numericColumns, List.forall_mem_cons, List.not_mem_nil,
    false_implies, implies_true, and_true]
  constructor
  · rintro ⟨x₆, h₆, x₇, h₇, x₈, h₈, x₉, h₉, x₁₀, h₁₀, x₁₁, h₁₁, x₁₂, h₁₂, h⟩
    cases h
    exact ⟨⟨rfl, rfl, rfl, rfl, rfl, rfl⟩, ⟨h₆, h₇, h₈, h₉, h₁₀, h₁₁, h₁₂⟩, rfl⟩
  · rintro ⟨⟨h₀, h₁, h₂, h₃, h₄, h₅⟩, ⟨h₆, h₇, h₈, h₉, h₁₀, h₁₁, h₁₂⟩, hnotes⟩
    refine ⟨_, h₆, _, h₇, _, h₈, _, h₉, _, h₁₀, _, h₁₁, _, h₁₂, ?_⟩
    rw [← h₀, ← h₁, ← h₂, ← h₃, ← h₄, ← h₅, ← hnotes]
    rfl

theorem Reads.unique {r' : Measurement} (hlong : columns ≤ fields.length) (h : Reads fields r)
    (h' : Reads fields r') : r = r' := by
  have hr : readRow 0 fields = .ok r := (readRow_eq_ok hlong).mpr h
  have hr' : readRow 0 fields = .ok r' := (readRow_eq_ok hlong).mpr h'
  exact Except.ok.inj (hr.symm.trans hr')

/-- The columns are read as in a traversal, which stops at the first that holds no number. -/
theorem readRow_eq_error : readRow line fields = .error e ↔
    numericColumns.mapM (fun c => numberAt line fields c.index) = .error e := by
  have hpure {α : Type} (a : α) : (pure a : Except LoadError α) ≠ .error e := nofun
  simp only [readRow, numericColumns, List.mapM_cons, List.mapM_nil, bind_eq_error, hpure, and_false,
    exists_false, or_false]

theorem mem_before_iff {before after : List NumericColumn} {b c : NumericColumn}
    (h : numericColumns = before ++ c :: after) :
    b ∈ before ↔ b ∈ numericColumns ∧ b.index < c.index := by
  have hordered := ordered
  rw [h] at hordered ⊢
  exact mem_before_iff_of_pairwise (fun _ _ => Nat.lt_asymm) hordered

theorem readRow_eq_error_iff (h : raw.texts = .ok fields) (hlong : columns ≤ fields.length) :
    readRow raw.position.line fields = .error e ↔ Refuses raw e := by
  rw [readRow_eq_error, mapM_eq_error]
  constructor
  · rintro ⟨before, c, after, hsplit, hbefore, hbad⟩
    have hc : c ∈ numericColumns := hsplit ▸ List.mem_append_right before List.mem_cons_self
    obtain ⟨hnone, rfl⟩ := numberAt_eq_error.mp hbad
    rw [name_eq hc]
    refine .number h hlong hc ?_ (getElem?_eq_textAt hlong (index_lt hc)) hnone
    intro b hb hlt
    exact (readable_iff hlong hb).mpr (hbefore b ((mem_before_iff hsplit).mpr ⟨hb, hlt⟩))
  · intro hrefuses
    cases hrefuses with
    | text h' =>
        rw [h] at h'
        cases h'
    | @number fields' c text h' hlong hc hfirst htext hbad =>
        cases h.symm.trans h'
        obtain ⟨before, after, hsplit⟩ := List.append_of_mem hc
        refine ⟨before, c, after, hsplit, ?_, ?_⟩
        · intro b hb
          obtain ⟨hb, hlt⟩ := (mem_before_iff hsplit).mp hb
          exact (readable_iff hlong hb).mp (hfirst b hb hlt)
        · rw [getElem?_eq_textAt hlong (index_lt hc), Option.some.injEq] at htext
          subst htext
          exact numberAt_eq_error.mpr ⟨hbad, by rw [name_eq hc]⟩

theorem readEntry_of_invalid {cause : Csv.InvalidText} (h : raw.texts = .error cause) :
    readEntry raw = .error (.invalidText cause) := by
  rw [readEntry, textsOf, h]
  rfl

theorem readEntry_of_short (h : raw.texts = .ok fields) (hshort : fields.length < columns) :
    readEntry raw = .ok (.short raw.position.line fields.length) := by
  rw [readEntry, textsOf, h, mapError_ok, ok_bind, if_pos hshort]
  rfl

theorem readEntry_of_long (h : raw.texts = .ok fields) (hlong : columns ≤ fields.length) :
    readEntry raw = readRow raw.position.line fields >>= fun r => .ok (.row r) := by
  rw [readEntry, textsOf, h, mapError_ok, ok_bind, if_neg hlong.not_gt]
  rfl

theorem readEntry_eq_ok : readEntry raw = .ok entry ↔ Yields raw entry := by
  cases h : raw.texts with
  | error cause =>
      rw [readEntry_of_invalid h]
      refine iff_of_false nofun fun hyields => ?_
      cases hyields with
      | short h' | row h' => cases h.symm.trans h'
  | ok fields =>
      rcases Nat.lt_or_ge fields.length columns with hshort | hlong
      · rw [readEntry_of_short h hshort]
        constructor
        · rintro ⟨⟩
          exact .short h hshort
        · intro hyields
          cases hyields with
          | short h' =>
              cases h.symm.trans h'
              rfl
          | row h' hlong =>
              cases h.symm.trans h'
              exact absurd hshort hlong.not_gt
      · rw [readEntry_of_long h hlong, bind_eq_ok]
        constructor
        · rintro ⟨r, hr, ⟨⟩⟩
          exact .row h hlong ((readRow_eq_ok hlong).mp hr)
        · intro hyields
          cases hyields with
          | short h' hshort =>
              cases h.symm.trans h'
              exact absurd hshort hlong.not_gt
          | row h' _ hr =>
              cases h.symm.trans h'
              exact ⟨_, (readRow_eq_ok hlong).mpr hr, rfl⟩

theorem readEntry_eq_error : readEntry raw = .error e ↔ Refuses raw e := by
  cases h : raw.texts with
  | error cause =>
      rw [readEntry_of_invalid h]
      constructor
      · rintro ⟨⟩
        exact .text h
      · intro hrefuses
        cases hrefuses with
        | text h' =>
            cases h.symm.trans h'
            rfl
        | number h' => cases h.symm.trans h'
  | ok fields =>
      rcases Nat.lt_or_ge fields.length columns with hshort | hlong
      · rw [readEntry_of_short h hshort]
        refine iff_of_false nofun fun hrefuses => ?_
        cases hrefuses with
        | text h' => cases h.symm.trans h'
        | number h' hlong =>
            cases h.symm.trans h'
            exact absurd hshort hlong.not_gt
      · rw [readEntry_of_long h hlong, bind_eq_error, readRow_eq_error_iff h hlong]
        exact or_iff_left fun ⟨_, _, h⟩ => nomatch h

theorem Refuses.not_accepts (h : Refuses raw e) : ¬ Accepts raw := by
  rintro ⟨fields, htexts, hreadable⟩
  cases h with
  | text h => cases htexts.symm.trans h
  | @number fields' c text h hlong hc _ htext hbad =>
      cases htexts.symm.trans h
      obtain ⟨text', x, htext', hx⟩ := hreadable hlong c hc
      cases htext.symm.trans htext'
      cases hbad.symm.trans hx

theorem Yields.accepts (h : Yields raw entry) : Accepts raw := by
  cases h with
  | short h hshort => exact ⟨_, h, fun hlong => absurd hshort hlong.not_gt⟩
  | @row fields r h _ hr =>
      refine ⟨fields, h, fun _ c hc => ?_⟩
      obtain ⟨text, htext, hx⟩ := hr.numbers c hc
      exact ⟨text, c.number r, htext, hx⟩

theorem accepts_iff : Accepts raw ↔ ∃ entry, readEntry raw = .ok entry := by
  cases h : readEntry raw with
  | error e => exact iff_of_false (readEntry_eq_error.mp h).not_accepts nofun
  | ok entry => exact iff_of_true (readEntry_eq_ok.mp h).accepts ⟨entry, rfl⟩

section Table

variable {bytes : List UInt8} {header : Csv.RawRecord} {records : List Csv.RawRecord}
  {names : List String} {entries : List Entry} {l : Loaded}

theorem load_eq (h : Csv.records bytes = header :: records) (hheader : header.texts = .ok names) :
    load bytes = records.mapM readEntry >>= fun entries => .ok (.ofEntries entries) := by
  have hbody : body bytes = .ok records := by
    rw [body, h]
    change (textsOf header).map _ = _
    rw [textsOf, hheader]
    rfl
  rw [load, hbody]
  rfl

theorem exists_table (h : List.Forall₂ Yields records entries) :
    ∃ table, List.Forall₂ (fun raw fields => raw.texts = .ok fields) records table ∧
      List.Forall₂ Reads (table.filter fun fields => columns ≤ fields.length)
        (entries.filterMap rowOf?) ∧
      entries.length = (entries.filterMap rowOf?).length +
        (table.filter fun fields => fields.length < columns).length := by
  induction h with
  | nil => exact ⟨[], .nil, .nil, rfl⟩
  | @cons raw entry records entries hentry _ ih =>
      obtain ⟨table, htable, hrows, hlength⟩ := ih
      cases hentry with
      | @short fields h hshort =>
          refine ⟨fields :: table, .cons h htable, ?_, ?_⟩
          · rw [List.filter_cons_of_neg (by simpa using hshort)]
            exact hrows
          · rw [List.filter_cons_of_pos (by simpa using hshort), List.length_cons, List.length_cons,
              hlength]
            rfl
      | @row fields r h hlong hr =>
          refine ⟨fields :: table, .cons h htable, ?_, ?_⟩
          · rw [List.filter_cons_of_pos (by simpa using hlong)]
            exact .cons hr hrows
          · rw [List.filter_cons_of_neg (by simpa using hlong), List.length_cons, hlength,
              Nat.add_right_comm]
            rfl

theorem accepts_of_yields (h : List.Forall₂ Yields records entries) : ∀ raw ∈ records, Accepts raw := by
  induction h with
  | nil => exact nofun
  | cons hentry _ ih => exact List.forall_mem_cons.mpr ⟨hentry.accepts, ih⟩

theorem load_eq_ok (h : Csv.records bytes = header :: records) (hheader : header.texts = .ok names) :
    load bytes = .ok l ↔ ∃ entries, List.Forall₂ Yields records entries ∧ l = .ofEntries entries := by
  rw [load_eq h hheader, bind_eq_ok]
  simp only [mapM_eq_ok, readEntry_eq_ok, Except.ok.injEq, eq_comm (b := l)]

theorem load_eq_error (h : Csv.records bytes = header :: records)
    (hheader : header.texts = .ok names) : load bytes = .error e ↔
      ∃ before raw after, records = before ++ raw :: after ∧ (∀ b ∈ before, Accepts b) ∧
        Refuses raw e := by
  rw [load_eq h hheader, bind_eq_error, or_iff_left (fun ⟨_, _, h⟩ => nomatch h), mapM_eq_error]
  simp only [accepts_iff, readEntry_eq_error]

/-- Loading a table whose header is read. It is refused exactly if some record is, and then by the first
one that is. Otherwise the rows are those of all long records in their order, and the rest, whatever is
in them, are counted, so that rows and count make up the records, in a report as well. -/
theorem load_outcome (h : Csv.records bytes = header :: records)
    (hheader : header.texts = .ok names) :
    ((∃ l, load bytes = .ok l) ↔ ∀ raw ∈ records, Accepts raw) ∧
    (∀ l, load bytes = .ok l →
      (∃ table, List.Forall₂ (fun raw fields => raw.texts = .ok fields) records table ∧
        List.Forall₂ Reads (table.filter fun fields => columns ≤ fields.length) l.rows ∧
        l.skipped = (table.filter fun fields => fields.length < columns).length) ∧
      l.rows.length + l.skipped = records.length ∧
      ∀ (s : Settings) (c : Certification) (stamp : Stamp) (siteId : String) (window : Float),
        Certification.ofRows l.rows s = .ok c →
          (Report.ofCertification stamp siteId window l.skipped c).rowsLoaded = l.rows.length ∧
          (Report.ofCertification stamp siteId window l.skipped c).rowsSkipped = l.skipped) ∧
    ∀ e, load bytes = .error e ↔ ∃ before raw after, records = before ++ raw :: after ∧
      (∀ b ∈ before, Accepts b) ∧ Refuses raw e := by
  refine ⟨?_, ?_, fun e => load_eq_error h hheader⟩
  · cases hload : load bytes with
    | error e =>
        obtain ⟨before, raw, after, rfl, -, hrefuses⟩ := (load_eq_error h hheader).mp hload
        refine iff_of_false nofun fun haccepts => hrefuses.not_accepts (haccepts raw ?_)
        exact List.mem_append_right before List.mem_cons_self
    | ok l =>
        obtain ⟨entries, hentries, -⟩ := (load_eq_ok h hheader).mp hload
        exact iff_of_true ⟨l, rfl⟩ (accepts_of_yields hentries)
  · intro l hload
    obtain ⟨entries, hentries, rfl⟩ := (load_eq_ok h hheader).mp hload
    obtain ⟨table, htable, hrows, hlength⟩ := exists_table hentries
    have hskipped : (Loaded.ofEntries entries).skipped =
        (table.filter fun fields => fields.length < columns).length := by
      rw [Loaded.ofEntries, hlength, Nat.add_sub_cancel_left]
    refine ⟨⟨table, htable, hrows, hskipped⟩, ?_, ?_⟩
    · rw [hskipped, hentries.length_eq, hlength]
      rfl
    · intro s c stamp siteId window hcycle
      obtain ⟨-, -, rfl⟩ := Certification.ofRows_eq_ok.mp hcycle
      exact ⟨List.length_map _, rfl⟩

end Table

def mixedTable : List UInt8 := Text.encode
  "id\nfog,n/a\nN1,outfall,sewer,TP,total,mg/L, 0.5,0.05,1,1,0,0,0,late,extra\n"

def spoiledTable : List UInt8 := Text.encode
  "id\nfog,n/a\nN1,,,TP,,,0,0, n/a ,?,0,0,0\nN2,,,TP,,,?,0,0,0,0,0,0\n"

theorem load_outcome_tables :
    (∃ l, load mixedTable = .ok l ∧ l.skipped = 1 ∧ l.rows.length + l.skipped = 2) ∧
    ∃ before raw after, (Csv.records spoiledTable).tail = before ++ raw :: after ∧
      (∀ b ∈ before, Accepts b) ∧ Refuses raw (.badNumber 3 8 "q_cms" " n/a ") := by
  have hheader : (Csv.RawRecord.mk ⟨0, 1, 0⟩ [[105, 100]]).texts = .ok ["id"] := by decide +kernel
  have hmixed : Csv.records mixedTable =
      ⟨⟨0, 1, 0⟩, [[105, 100]]⟩ :: (Csv.records mixedTable).tail := by
    decide +kernel
  have hspoiled : Csv.records spoiledTable =
      ⟨⟨0, 1, 0⟩, [[105, 100]]⟩ :: (Csv.records spoiledTable).tail := by
    decide +kernel
  have hload : (load mixedTable).toOption.any (·.skipped == 1) = true := by decide +kernel
  have hrefused : load spoiledTable = .error (.badNumber 3 8 "q_cms" " n/a ") := by decide +kernel
  obtain ⟨l, hl, hskipped⟩ := exists_ok_of_any hload
  obtain ⟨-, htotal, -⟩ := (load_outcome hmixed hheader).2.1 l hl
  have hcount : (Csv.records mixedTable).tail.length = 2 := by decide +kernel
  exact ⟨⟨l, hl, beq_iff_eq.mp hskipped, htotal.trans hcount⟩,
    ((load_outcome hspoiled hheader).2.2 _).mp hrefused⟩

end SiteSafety.NodeTable
