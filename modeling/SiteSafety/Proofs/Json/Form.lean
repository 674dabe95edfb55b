import SiteSafety.Proofs.Json.Numeral
import SiteSafety.Proofs.Lookup

namespace SiteSafety.Json

mutual

def numbers : Json → List Float
  | .null => []
  | .flag _ => []
  | .whole _ => []
  | .number x => [x]
  | .text _ => []
  | .array items => itemNumbers items
  | .object fields => fieldNumbers fields

def itemNumbers : List Json → List Float
  | [] => []
  | j :: js => numbers j ++ itemNumbers js

def fieldNumbers : List (String × Json) → List Float
  | [] => []
  | (_, j) :: fs => numbers j ++ fieldNumbers fs

end

def AllFinite (j : Json) : Prop := ∀ x ∈ j.numbers, x.isFinite = true

instance : DecidablePred AllFinite := fun j =>
  inferInstanceAs (Decidable (∀ x ∈ j.numbers, x.isFinite = true))

/-- Of the floats in the value those that are finite read back. -/
def Readable (j : Json) : Prop := ∀ x ∈ j.numbers, x.isFinite = true → ReadsBack x

instance : DecidablePred Readable := fun j =>
  inferInstanceAs (Decidable (∀ x ∈ j.numbers, x.isFinite = true → ReadsBack x))

theorem mem_fieldNumbers {x : Float} {fields : List (String × Json)} :
    x ∈ fieldNumbers fields ↔ ∃ f ∈ fields, x ∈ f.2.numbers := by
  induction fields with
  | nil => simp [fieldNumbers]
  | cons f fs ih =>
      obtain ⟨name, j⟩ := f
      simp [fieldNumbers, ih]

theorem allFinite_object {fields : List (String × Json)} :
    (Json.object fields).AllFinite ↔ ∀ f ∈ fields, f.2.AllFinite := by
  simp only [AllFinite, numbers, mem_fieldNumbers]
  exact ⟨fun h f hf x hx => h x ⟨f, hf, hx⟩, fun h x ⟨f, hf, hx⟩ => h f hf x hx⟩

theorem readable_object {fields : List (String × Json)} :
    (Json.object fields).Readable ↔ ∀ f ∈ fields, f.2.Readable := by
  simp only [Readable, numbers, mem_fieldNumbers]
  exact ⟨fun h f hf x hx => h x ⟨f, hf, hx⟩, fun h x ⟨f, hf, hx⟩ => h f hf x hx⟩

variable {c : Char} {cs rest body : List Char} {x : Float} {j : Json} {name : String}
  {fields : List (String × Json)} {first : Bool}

theorem endsNumeral_cons (hdigit : c.isDigit = false) (hpoint : c ≠ '.') (he : c ≠ 'e')
    (hE : c ≠ 'E') : EndsNumeral (c :: cs) := by
  rintro d ⟨⟩
  exact ⟨hdigit, hpoint, he, hE⟩

theorem endsNumeral_blanks (b : Blanks) (h : EndsNumeral cs) : EndsNumeral (b.chars ++ cs) := by
  obtain ⟨chars, hblank⟩ := b
  cases chars with
  | nil => exact h
  | cons c chars =>
      have hc := hblank c List.mem_cons_self
      simp only [isBlank, Bool.or_eq_true, beq_iff_eq] at hc
      rintro d ⟨⟩
      rcases hc with ((rfl | rfl) | rfl) | rfl <;> decide

theorem endsNumeral_fields (h : WrittenFields false fields body) (closing : Blanks)
    (rest : List Char) : EndsNumeral (body ++ (closing.chars ++ '}' :: rest)) := by
  cases fields with
  | nil =>
      cases h
      exact endsNumeral_blanks closing (endsNumeral_cons rfl (by decide) (by decide) (by decide))
  | cons f fs =>
      obtain ⟨name, j⟩ := f
      obtain ⟨comma, before, colon, after, value, rest, -, -, rfl⟩ := h
      simp only [lead, Bool.false_eq_true, if_false, List.append_assoc]
      exact endsNumeral_blanks comma (endsNumeral_cons rfl (by decide) (by decide) (by decide))

namespace Form

/-- The form reads every text of the value, as `read` if its floats are all finite, and finds a mismatch
otherwise. -/
def Reads (form : Form) (j read : Json) : Prop :=
  ∀ (before : Blanks) (value rest : List Char), Written j value → EndsNumeral rest →
    form (before.chars ++ (value ++ rest)) =
      if j.AllFinite then .ok (read, rest) else .error .mismatch

theorem numeral_blanks (b : Blanks) (cs : List Char) : numeral (b.chars ++ cs) = numeral cs := by
  rw [numeral, numeral, skipBlanks_append]

theorem reads_number (h : (Json.number x).Readable) : number.Reads (.number x) (.number x) := by
  rintro before value rest rfl hrest
  rw [number, numeral_blanks]
  cases hx : x.isFinite with
  | true =>
      have hback : ReadsBack x := h x List.mem_cons_self hx
      have hfinite : (Json.number x).AllFinite := List.forall_mem_singleton.mpr hx
      obtain ⟨-, n, rfl, hread⟩ := numeral_documentChars hback
      rw [if_pos hfinite, compactChars, hread rest hrest]
      rfl
  | false =>
      have hfinite : ¬ (Json.number x).AllFinite := fun h =>
        absurd (h x List.mem_cons_self) (by rw [hx]; exact Bool.false_ne_true)
      have hnull : Decimal.documentChars x = ['n', 'u', 'l', 'l'] := by
        rw [Decimal.documentChars, hx]
        rfl
      rw [if_neg hfinite, compactChars, hnull]
      rfl

theorem reads_flag (b : Bool) : flag.Reads (.flag b) (.flag b) := by
  rintro before value rest rfl -
  rw [if_pos (nofun), compactChars, flag, skipBlanks_append]
  cases b <;> rfl

theorem optional_reads_null (form : Form) : (optional form).Reads .null .null := by
  rintro before value rest rfl -
  rw [if_pos (nofun), compactChars, optional, skipBlanks_append]
  rfl

theorem optional_of_ne (form : Form) (hc : isBlank c = false) (hn : c ≠ 'n') :
    optional form (c :: cs) = form (c :: cs) := by
  rw [optional, skipBlanks_cons hc]
  split
  · next heq =>
    cases heq
    exact absurd rfl hn
  · rfl

theorem optional_blanks (form : Form) (b : Blanks) (cs : List Char) :
    optional form (b.chars ++ cs) = optional form cs := by
  rw [optional, optional, skipBlanks_append]

theorem optional_reads_number (hfinite : x.isFinite = true) (h : (Json.number x).Readable) :
    (optional number).Reads (.number x) (.number x) := by
  rintro before value rest rfl hrest
  have hback : ReadsBack x := h x List.mem_cons_self hfinite
  obtain ⟨⟨c, cs, hcs, hc⟩, -⟩ := numeral_documentChars hback
  have hblank : isBlank c = false := by
    rcases hc with rfl | hdigit
    · rfl
    · exact isBlank_of_isDigit hdigit
  -- a numeral starts with a sign or a digit, so that it is not taken for `null`
  have hn : c ≠ 'n' := by
    rintro rfl
    exact absurd hc (by decide)
  have hread := reads_number h .none _ rest rfl hrest
  rw [compactChars, hcs] at hread ⊢
  rw [optional_blanks, List.cons_append, optional_of_ne number hblank hn]
  exact hread

theorem variant?_of_mem {names : List String} {s : String} (h : s ∈ names) :
    variant? (names.map (Variant.mk · none)) s = .ok ⟨s, none⟩ := by
  have hfind : names.find? (· == s) = some s := by
    obtain ⟨t, ht⟩ := Option.isSome_iff_exists.mp
      (List.find?_isSome (p := (· == s)).mpr ⟨s, h, beq_self_eq_true s⟩)
    rw [ht, eq_of_beq (List.find?_some (p := (· == s)) ht)]
  have hvariant : (names.map (Variant.mk · none)).find? (·.name == s) = some ⟨s, none⟩ := by
    rw [List.find?_map]
    exact congrArg (Option.map (Variant.mk · none)) hfind
  rw [variant?, hvariant]

theorem names_reads {names : List String} {s : String} (h : s ∈ names) :
    (Form.names names).Reads (.text s) (.text s) := by
  rintro before value rest rfl -
  rw [if_pos (nofun), compactChars, textChars_append, Form.names, choice, skipBlanks_append,
    skipBlanks_cons rfl]
  simp only [readText_flatMap, ok_bind, variant?_of_mem h]
  rfl

theorem nextName_comma (h : skipBlanks cs = '"' :: rest) :
    nextName false (',' :: cs) = .ok (some rest) := by
  simp [nextName, skipBlanks_cons (c := ',') rfl, h]

theorem nextName_blanks (b : Blanks) (cs : List Char) :
    nextName first (b.chars ++ cs) = nextName first cs := by
  rw [nextName, nextName, skipBlanks_append]

theorem nextName_written (comma before : Blanks) (name : String) (cs : List Char) :
    nextName first (lead first comma ++ (before.chars ++ (textChars name ++ cs))) =
      .ok (some (name.toList.flatMap escapedChar ++ '"' :: cs)) := by
  rw [textChars_append]
  cases first with
  | true => exact nextName_blanks before _
  | false =>
      rw [lead, if_neg Bool.false_ne_true, List.append_assoc, nextName_blanks,
        List.singleton_append]
      exact nextName_comma (by rw [skipBlanks_append, skipBlanks_cons rfl])

theorem nextName_closing (closing : Blanks) (cs : List Char) :
    nextName first (closing.chars ++ '}' :: cs) = .ok none := by
  rw [nextName_blanks]
  rfl

theorem colon_written (b : Blanks) (cs : List Char) : colon (b.chars ++ ':' :: cs) = .ok cs := by
  rw [colon, skipBlanks_append]
  rfl

theorem endFields_closing (closing : Blanks) (cs : List Char) :
    endFields (closing.chars ++ '}' :: cs) = .ok cs := by
  rw [endFields, skipBlanks_append]
  rfl

theorem length_le_of_written (h : WrittenFields first fields body) : fields.length ≤ body.length := by
  induction fields generalizing first body with
  | nil => exact Nat.zero_le _
  | cons f fs ih =>
      obtain ⟨comma, before, colon, after, value, rest, -, hrest, rfl⟩ := h
      have := ih hrest
      simp only [List.length_append, List.length_cons]
      omega

/-- The fields are read one after another, each by the form that the policy names for it, up to one that
is not finite. -/
theorem fieldsFrom_written {fuel : ℕ} (policy : FieldPolicy) (found : List (String × Json))
    (hbody : WrittenFields first fields body) (hfuel : fields.length < fuel)
    (hpolicy : ∀ before f after, fields = before ++ f :: after →
      ∃ form, policy (found ++ before) f.1 = .ok (some form) ∧ form.Reads f.2 f.2)
    (closing : Blanks) (rest : List Char) :
    fieldsFrom fuel policy first found (body ++ (closing.chars ++ '}' :: rest)) =
      if ∀ f ∈ fields, f.2.AllFinite then .ok (found ++ fields, closing.chars ++ '}' :: rest)
      else .error .mismatch := by
  -- on the fields that are left; those found are what the policy is asked about
  induction fields generalizing first found fuel body with
  | nil =>
      cases hbody
      obtain ⟨fuel, rfl⟩ := Nat.exists_eq_succ_of_ne_zero (Nat.ne_zero_of_lt hfuel)
      rw [List.nil_append, fieldsFrom, nextName_closing, if_pos nofun, List.append_nil]
  | cons f fs ih =>
      obtain ⟨name, j⟩ := f
      obtain ⟨fuel, rfl⟩ := Nat.exists_eq_succ_of_ne_zero (Nat.ne_zero_of_lt hfuel)
      obtain ⟨form, hform, hreads⟩ := hpolicy [] (name, j) fs rfl
      obtain ⟨comma, before, colon, after, value, tail, hvalue, htail, rfl⟩ := hbody
      have hread := hreads after value _ hvalue (endsNumeral_fields htail closing rest)
      rw [List.append_nil] at hform
      simp only [List.append_assoc, List.cons_append] at hread ⊢
      rw [fieldsFrom, nextName_written]
      simp only [readText_flatMap, ok_bind, hform, colon_written, hread]
      by_cases hj : j.AllFinite
      · have hnext := ih (found ++ [(name, j)]) htail (Nat.lt_of_succ_lt_succ hfuel) ?_
        · rw [if_pos hj, ok_bind]
          simp only [hnext, List.forall_mem_cons, hj, true_and, List.append_assoc,
            List.singleton_append]
        · rintro earlier f later rfl
          have := hpolicy ((name, j) :: earlier) f later rfl
          rwa [List.append_assoc]
      · rw [if_neg hj, if_neg fun h => hj (h _ List.mem_cons_self)]
        rfl

theorem skipBlanks_object (before closing : Blanks) (body rest : List Char) :
    skipBlanks (before.chars ++ ('{' :: body ++ closing.chars ++ ['}'] ++ rest)) =
      '{' :: (body ++ (closing.chars ++ '}' :: rest)) := by
  rw [skipBlanks_append]
  simp only [List.append_assoc, List.cons_append]
  exact skipBlanks_cons rfl

theorem fieldsFrom_object (policy : FieldPolicy) (hbody : WrittenFields true fields body)
    (hpolicy : ∀ before f after, fields = before ++ f :: after →
      ∃ form, policy before f.1 = .ok (some form) ∧ form.Reads f.2 f.2)
    (closing : Blanks) (rest : List Char) :
    fieldsFrom ((body ++ (closing.chars ++ '}' :: rest)).length + 1) policy true []
        (body ++ (closing.chars ++ '}' :: rest)) =
      if (Json.object fields).AllFinite then .ok (fields, closing.chars ++ '}' :: rest)
      else .error .mismatch := by
  have hfuel : fields.length < (body ++ (closing.chars ++ '}' :: rest)).length + 1 := by
    have := length_le_of_written hbody
    rw [List.length_append]
    omega
  simp only [allFinite_object]
  exact fieldsFrom_written policy [] hbody hfuel hpolicy closing rest

theorem table_reads {form : Form} (h : ∀ f ∈ fields, form.Reads f.2 f.2) :
    (table form).Reads (.object fields) (.object fields) := by
  rintro before value rest ⟨body, closing, hbody, rfl⟩ -
  have hread := fieldsFrom_object (fun _ _ => .ok (some form)) hbody
    (fun before f after hsplit =>
      ⟨form, rfl, h f (hsplit ▸ List.mem_append_right before List.mem_cons_self)⟩) closing rest
  rw [table, skipBlanks_object]
  simp only [hread]
  split
  · rw [ok_bind, endFields_closing]
    rfl
  · rfl

theorem memberPolicy_of_not_mem {members : List Member} {m : Member}
    (hm : members.find? (·.name == name) = some m) (h : name ∉ fields.map (·.1)) :
    memberPolicy members fields name = .ok (some m.form) := by
  rw [memberPolicy, hm]
  simp only [lookup_eq_none h, Option.isSome_none, Bool.false_eq_true, if_false]

theorem fields_reads {members : List Member} {arranged : List (String × Json)}
    (hnames : (fields.map (·.1)).Nodup)
    (hmembers : ∀ f ∈ fields, ∃ m, members.find? (·.name == f.1) = some m ∧ m.form.Reads f.2 f.2)
    (harranged : arrange members fields = .ok arranged) :
    (Form.fields members).Reads (.object fields) (.object arranged) := by
  rintro before value rest ⟨body, closing, hbody, rfl⟩ -
  have hpolicy (before : List (String × Json)) (f : String × Json) (after : List (String × Json))
      (hsplit : fields = before ++ f :: after) :
      ∃ form, memberPolicy members before f.1 = .ok (some form) ∧ form.Reads f.2 f.2 := by
    obtain ⟨m, hm, hreads⟩ := hmembers f (hsplit ▸ List.mem_append_right before List.mem_cons_self)
    refine ⟨m.form, memberPolicy_of_not_mem hm ?_, hreads⟩
    rw [hsplit, List.map_append, List.map_cons] at hnames
    exact fun hmem => List.disjoint_of_nodup_append hnames hmem List.mem_cons_self
  have hread := fieldsFrom_object (memberPolicy members) hbody hpolicy closing rest
  rw [Form.fields, skipBlanks_object]
  simp only [hread]
  split
  · simp only [ok_bind, harranged, endFields_closing]
    rfl
  · rfl

theorem arrange_self {members : List Member} (hnames : (fields.map (·.1)).Nodup)
    (h : members.map (·.name) = fields.map (·.1)) : arrange members fields = .ok fields := by
  have hpresent : (members.any fun m => m.required && (fields.lookup m.name).isNone) = false := by
    refine List.any_eq_false.mpr fun m hm => ?_
    have hmem : m.name ∈ fields.map (·.1) := h ▸ List.mem_map_of_mem hm
    obtain ⟨f, hf, heq⟩ := List.mem_map.mp hmem
    rw [← heq, lookup_of_mem hnames hf, Option.isNone_some, Bool.and_false]
    exact Bool.false_ne_true
  have hsame : (members.filterMap fun m => (fields.lookup m.name).map (m.name, ·)) = fields := by
    calc (members.filterMap fun m => (fields.lookup m.name).map (m.name, ·))
        = (members.map (·.name)).filterMap fun n => (fields.lookup n).map (n, ·) := by
          rw [List.filterMap_map]
          rfl
      _ = fields.filterMap fun f => (fields.lookup f.1).map (f.1, ·) := by
          rw [h, List.filterMap_map]
          rfl
      _ = fields.filterMap some :=
          List.filterMap_congr fun f hf => by rw [lookup_of_mem hnames hf]; rfl
      _ = fields := List.filterMap_some
  rw [arrange, hpresent, if_neg Bool.false_ne_true, hsame]

theorem floats_read (floats : List (String × Float)) (hnames : (floats.map (·.1)).Nodup)
    (h : (Json.object (floats.map fun f => (f.1, .number f.2))).Readable) :
    (Form.fields (floats.map fun f => required f.1 number)).Reads
      (.object (floats.map fun f => (f.1, .number f.2)))
      (.object (floats.map fun f => (f.1, .number f.2))) := by
  have hsame : ((floats.map fun f => (f.1, Json.number f.2)).map (·.1)) = floats.map (·.1) := by
    rw [List.map_map]
    rfl
  refine fields_reads (hsame ▸ hnames) (List.forall_mem_map.mpr fun f hf => ?_)
    (arrange_self (hsame ▸ hnames) ?_)
  · obtain ⟨g, hg⟩ := Option.isSome_iff_exists.mp
      (List.find?_isSome (p := (·.1 == f.1)).mpr ⟨f, hf, beq_self_eq_true f.1⟩)
    refine ⟨required g.1 number, ?_, reads_number (List.forall_mem_map.mp (readable_object.mp h) f hf)⟩
    rw [List.find?_map]
    exact congrArg (Option.map fun g : String × Float => required g.1 number) hg
  · rw [hsame, List.map_map]
    rfl

end Form

theorem read_eq {form : Form} {read : Json} (h : form.Reads j read) {document : String}
    (hdocument : Spells document j) :
    Json.read form document = if j.AllFinite then .ok read else .error .mismatch := by
  obtain ⟨before, after, value, hvalue, heq⟩ := hdocument
  have hafter : skipBlanks after.chars = [] := by
    rw [← List.append_nil after.chars, skipBlanks_append]
    rfl
  have hends : EndsNumeral after.chars := by
    rw [← List.append_nil after.chars]
    exact endsNumeral_blanks after nofun
  rw [Json.read, heq, List.append_assoc, h before value after.chars hvalue hends]
  split
  · simp only [ok_bind, hafter]
    rfl
  · rfl

end SiteSafety.Json
