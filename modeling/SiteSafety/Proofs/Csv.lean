import SiteSafety.Csv
import SiteSafety.Proofs.Text

namespace SiteSafety.Csv

open String (utf8EncodeChar)

inductive LineEnd where
  | lf
  | crLf

def LineEnd.chars : LineEnd → List Char
  | lf => ['\n']
  | crLf => ['\r', '\n']

def doubledChar (c : Char) : List Char := if c = '"' then ['"', '"'] else [c]

def fieldChars (s : String) : List Char := '"' :: s.toList.flatMap doubledChar ++ ['"']

def recordChars : List String → List Char
  | [] => []
  | [s] => fieldChars s
  | s :: rest => fieldChars s ++ ',' :: recordChars rest

structure WrittenRecord where
  fields : List String
  lineEnd : LineEnd

def tableChars (table : List WrittenRecord) : List Char :=
  table.flatMap fun r => recordChars r.fields ++ r.lineEnd.chars

def openTableChars : List WrittenRecord → List Char
  | [] => []
  | [r] => recordChars r.fields
  | r :: rest => recordChars r.fields ++ r.lineEnd.chars ++ openTableChars rest

/-- What a scanner has collected, wherever it stands. -/
structure Collected (s : Scanner) (mode : Mode) (done : List (List (List UInt8)))
    (fields : List (List UInt8)) (field : List UInt8) : Prop where
  mode : s.mode = mode
  done : s.done.map (·.fields) = done
  fields : s.fields = fields
  field : s.field = field

variable {s : Scanner} {mode : Mode} {done : List (List (List UInt8))} {fields : List (List UInt8)}
  {field : List UInt8} {b : UInt8}

def feedChars (s : Scanner) (cs : List Char) : Scanner :=
  (cs.flatMap utf8EncodeChar).foldl Scanner.feed s

theorem feedChars_append (s : Scanner) (cs ds : List Char) :
    feedChars s (cs ++ ds) = feedChars (feedChars s cs) ds := by
  rw [feedChars, List.flatMap_append, List.foldl_append]
  rfl

theorem feedChars_cons (s : Scanner) (c : Char) (cs : List Char) :
    feedChars s (c :: cs) = feedChars ((utf8EncodeChar c).foldl Scanner.feed s) cs := by
  rw [feedChars, List.flatMap_cons, List.foldl_append]
  rfl

namespace Collected

theorem openQuote (h : Collected s mode done fields []) (hmode : mode = .between ∨ mode = .opening) :
    Collected (s.feed quote) .quoted done fields [] := by
  obtain ⟨rfl, rfl, rfl, hfield⟩ := h
  rcases hmode with hmode | hmode <;> simp only [Scanner.feed, hmode] <;>
    exact ⟨rfl, rfl, rfl, hfield⟩

theorem plain (h : Collected s .quoted done fields field) (hb : b ≠ quote) :
    Collected (s.feed b) .quoted done fields (b :: field) := by
  obtain ⟨hmode, rfl, rfl, rfl⟩ := h
  simp only [Scanner.feed, hmode, if_neg hb]
  exact ⟨rfl, rfl, rfl, rfl⟩

theorem closeQuote (h : Collected s .quoted done fields field) :
    Collected (s.feed quote) .closing done fields field := by
  obtain ⟨hmode, rfl, rfl, rfl⟩ := h
  simp only [Scanner.feed, hmode, if_pos]
  exact ⟨rfl, rfl, rfl, rfl⟩

theorem secondQuote (h : Collected s .closing done fields field) :
    Collected (s.feed quote) .quoted done fields (quote :: field) := by
  obtain ⟨hmode, rfl, rfl, rfl⟩ := h
  simp only [Scanner.feed, hmode, if_pos]
  exact ⟨rfl, rfl, rfl, rfl⟩

theorem nextField (h : Collected s .closing done fields field) :
    Collected (s.feed comma) .opening done (field.reverse :: fields) [] := by
  obtain ⟨hmode, rfl, rfl, rfl⟩ := h
  simp only [Scanner.feed, hmode]
  exact ⟨rfl, rfl, rfl, rfl⟩

theorem endRecord (h : Collected s mode done fields field) :
    Collected s.endRecord .between ((field.reverse :: fields).reverse :: done) [] [] := by
  obtain ⟨-, rfl, rfl, rfl⟩ := h
  exact ⟨rfl, rfl, rfl, rfl⟩

theorem endLine (h : Collected s .closing done fields field) (hb : isLineEnd b = true) :
    Collected (s.feed b) .between ((field.reverse :: fields).reverse :: done) [] [] := by
  obtain ⟨hmode, rfl, rfl, rfl⟩ := h
  rw [isLineEnd, Bool.or_eq_true, beq_iff_eq, beq_iff_eq] at hb
  rcases hb with rfl | rfl <;> simp only [Scanner.feed, hmode] <;> exact ⟨rfl, rfl, rfl, rfl⟩

theorem blankLine (h : Collected s .between done [] []) (hb : isLineEnd b = true) :
    Collected (s.feed b) .between done [] [] := by
  obtain ⟨hmode, rfl, hfields, hfield⟩ := h
  simp only [Scanner.feed, hmode, if_pos hb]
  exact ⟨rfl, rfl, hfields, hfield⟩

theorem plainBytes {bytes : List UInt8} (h : Collected s .quoted done fields field)
    (hbytes : ∀ b ∈ bytes, b ≠ quote) :
    Collected (bytes.foldl Scanner.feed s) .quoted done fields (bytes.reverse ++ field) := by
  induction bytes generalizing s field with
  | nil => exact h
  | cons b bytes ih =>
      obtain ⟨hb, hbytes⟩ := List.forall_mem_cons.mp hbytes
      rw [List.foldl_cons, List.reverse_cons, List.append_assoc]
      exact ih (h.plain hb) hbytes

theorem char (h : Collected s .quoted done fields field) (c : Char) :
    Collected (feedChars s (doubledChar c)) .quoted done fields
      ((utf8EncodeChar c).reverse ++ field) := by
  by_cases hc : c = '"'
  · subst hc
    exact h.closeQuote.secondQuote
  · rw [doubledChar, if_neg hc, feedChars, List.flatMap_singleton]
    refine h.plainBytes fun b hb hquote => ?_
    -- a byte below 128 is the character itself
    rcases Nat.lt_or_ge c.toNat 128 with hascii | hbeyond
    · rw [Text.utf8EncodeChar_of_ascii hascii, List.mem_singleton] at hb
      have hbyte : (UInt8.ofNat c.toNat).toNat = quote.toNat := by rw [← hb, hquote]
      rw [UInt8.toNat_ofNat', Nat.mod_eq_of_lt (by omega)] at hbyte
      exact hc (Char.toNat_inj.mp hbyte)
    · have hle := Text.le_of_mem_utf8EncodeChar hbeyond hb
      rw [hquote] at hle
      exact absurd hle (by decide)

theorem text (h : Collected s .quoted done fields field) (cs : List Char) :
    Collected (feedChars s (cs.flatMap doubledChar)) .quoted done fields
      ((cs.flatMap utf8EncodeChar).reverse ++ field) := by
  induction cs generalizing s field with
  | nil => exact h
  | cons c cs ih =>
      rw [List.flatMap_cons, List.flatMap_cons, feedChars_append, List.reverse_append,
        List.append_assoc]
      exact ih (h.char c)

theorem quotedField (h : Collected s mode done fields []) (hmode : mode = .between ∨ mode = .opening)
    (text : String) :
    Collected (feedChars s (fieldChars text)) .closing done fields (Text.encode text).reverse := by
  have htext := (h.openQuote hmode).text text.toList
  rw [← Text.encode_eq, List.append_nil] at htext
  rw [fieldChars, feedChars_append, feedChars_cons]
  exact htext.closeQuote

theorem quotedRecord (h : Collected s mode done fields [])
    (hmode : mode = .between ∨ mode = .opening) {texts : List String} (htexts : texts ≠ []) :
    ∃ fields' field', Collected (feedChars s (recordChars texts)) .closing done fields' field' ∧
      (field'.reverse :: fields').reverse = fields.reverse ++ texts.map Text.encode := by
  induction texts generalizing s mode fields with
  | nil => exact absurd rfl htexts
  | cons text texts ih =>
      have hfield := h.quotedField hmode text
      cases texts with
      | nil =>
          refine ⟨fields, _, hfield, ?_⟩
          rw [List.reverse_reverse, List.reverse_cons]
          rfl
      | cons text' texts =>
          obtain ⟨fields', field', hrest, heq⟩ :=
            ih hfield.nextField (.inr rfl) (List.cons_ne_nil text' texts)
          refine ⟨fields', field', ?_, ?_⟩
          · rw [recordChars, feedChars_append, feedChars_cons]
            · exact hrest
            · nofun
          · rw [heq, List.reverse_reverse, List.reverse_cons, List.append_assoc]
            rfl

theorem lineEnd (h : Collected s .closing done fields field) (e : LineEnd) :
    Collected (feedChars s e.chars) .between ((field.reverse :: fields).reverse :: done) [] [] := by
  cases e with
  | lf => exact h.endLine rfl
  | crLf => exact (h.endLine (b := carriageReturn) rfl).blankLine (b := lineFeed) rfl

theorem writtenRecord (h : Collected s .between done [] []) {r : WrittenRecord} (hr : r.fields ≠ []) :
    Collected (feedChars s (recordChars r.fields ++ r.lineEnd.chars)) .between
      (r.fields.map Text.encode :: done) [] [] := by
  obtain ⟨fields, field, hrecord, heq⟩ := h.quotedRecord (.inl rfl) hr
  have hend := hrecord.lineEnd r.lineEnd
  rw [heq] at hend
  rw [feedChars_append]
  exact hend

theorem finish (h : Collected s .closing done fields field) :
    s.finish.map (·.fields) = ((field.reverse :: fields).reverse :: done).reverse := by
  rw [Scanner.finish, h.mode]
  rw [List.map_reverse, h.endRecord.done]

theorem finish_between (h : Collected s .between done fields field) :
    s.finish.map (·.fields) = done.reverse := by
  rw [Scanner.finish, h.mode, List.map_reverse, h.done]

theorem table (h : Collected s .between done [] []) {table : List WrittenRecord}
    (htable : ∀ r ∈ table, r.fields ≠ []) :
    (feedChars s (tableChars table)).finish.map (·.fields) =
      done.reverse ++ table.map (·.fields.map Text.encode) := by
  induction table generalizing s done with
  | nil => rw [List.map_nil, List.append_nil]; exact h.finish_between
  | cons r rest ih =>
      obtain ⟨hr, hrest⟩ := List.forall_mem_cons.mp htable
      rw [tableChars, List.flatMap_cons, feedChars_append]
      have := ih (h.writtenRecord hr) hrest
      rw [List.reverse_cons, List.append_assoc] at this
      exact this

theorem openTable (h : Collected s .between done [] []) {table : List WrittenRecord}
    (htable : ∀ r ∈ table, r.fields ≠ []) :
    (feedChars s (openTableChars table)).finish.map (·.fields) =
      done.reverse ++ table.map (·.fields.map Text.encode) := by
  induction table generalizing s done with
  | nil => rw [List.map_nil, List.append_nil]; exact h.finish_between
  | cons r rest ih =>
      obtain ⟨hr, hrest⟩ := List.forall_mem_cons.mp htable
      cases rest with
      | nil =>
          obtain ⟨fields, field, hrecord, heq⟩ := h.quotedRecord (.inl rfl) hr
          rw [openTableChars, hrecord.finish, heq, List.reverse_cons]
          rfl
      | cons r' rest =>
          have := ih (h.writtenRecord hr) hrest
          rw [List.reverse_cons, List.append_assoc] at this
          rw [openTableChars, feedChars_append]
          · exact this
          · nofun

end Collected

theorem collected_start : Collected (start 0) .between [] [] [] := ⟨rfl, rfl, rfl, rfl⟩

theorem records_of_quote {cs : List Char} (h : ∀ c ∈ cs.head?, c = '"') :
    records (Text.encode (String.ofList cs)) = (feedChars (start 0) cs).finish := by
  rw [records, Text.encode_ofList]
  cases cs with
  | nil => exact if_neg nofun
  | cons c cs =>
      cases h c rfl
      exact if_neg nofun

theorem head?_recordChars {texts : List String} (h : texts ≠ []) :
    (recordChars texts).head? = some '"' := by
  match texts, h with
  | [_], _ => rfl
  | _ :: _ :: _, _ => rfl

theorem head?_tableChars {table : List WrittenRecord} (htable : ∀ r ∈ table, r.fields ≠ []) :
    ∀ c ∈ (tableChars table).head?, c = '"' := by
  cases table with
  | nil => nofun
  | cons r rest =>
      rw [tableChars, List.flatMap_cons, List.head?_append, List.head?_append,
        head?_recordChars (htable r List.mem_cons_self)]
      rintro c ⟨⟩
      rfl

theorem head?_openTableChars {table : List WrittenRecord} (htable : ∀ r ∈ table, r.fields ≠ []) :
    ∀ c ∈ (openTableChars table).head?, c = '"' := by
  match table with
  | [] => nofun
  | [r] =>
      rw [openTableChars, head?_recordChars (htable r List.mem_cons_self)]
      rintro c ⟨⟩
      rfl
  | r :: r' :: rest =>
      rw [openTableChars, List.head?_append, List.head?_append,
        head?_recordChars (htable r List.mem_cons_self)]
      · rintro c ⟨⟩
        rfl
      · nofun

/-- A table that is quoted throughout is read as what was written. -/
theorem records_tableChars {table : List WrittenRecord} (htable : ∀ r ∈ table, r.fields ≠ []) :
    (records (Text.encode (String.ofList (tableChars table)))).map (·.fields) =
      table.map (·.fields.map Text.encode) := by
  rw [records_of_quote (head?_tableChars htable), collected_start.table htable]
  rfl

theorem records_openTableChars {table : List WrittenRecord} (htable : ∀ r ∈ table, r.fields ≠ []) :
    (records (Text.encode (String.ofList (openTableChars table)))).map (·.fields) =
      table.map (·.fields.map Text.encode) := by
  rw [records_of_quote (head?_openTableChars htable), collected_start.openTable htable]
  rfl

theorem textsFrom_encode (position : Position) (field : Nat) (texts : List String) :
    textsFrom position field (texts.map Text.encode) = .ok texts := by
  induction texts generalizing field with
  | nil => rfl
  | cons text texts ih =>
      rw [List.map_cons, textsFrom, Text.decode_encode]
      simp only [ih]
      rfl

theorem RawRecord.texts_of_encode {r : RawRecord} {texts : List String}
    (h : r.fields = texts.map Text.encode) : r.texts = .ok texts := by
  rw [RawRecord.texts, h, textsFrom_encode]

end SiteSafety.Csv
