import Mathlib.Data.List.Induction
import SiteSafety.Csv

namespace SiteSafety.Csv

def markLength (bytes : List UInt8) : ℕ := if byteOrderMark.isPrefixOf bytes then 3 else 0

def content (bytes : List UInt8) : List UInt8 := bytes.drop (markLength bytes)

def scan (mark : ℕ) (passed : List UInt8) : Scanner := passed.foldl Scanner.feed (start mark)

/-- The line of what stands behind these bytes. Each line end, with a carriage return or without, has one
line feed. -/
def lineBehind (passed : List UInt8) : ℕ := passed.count lineFeed + 1

/-- The record of this number, the header being the first, has its first byte behind these ones. -/
structure BeginsBehind (mark : ℕ) (text passed : List UInt8) (number : ℕ) : Prop where
  mode : (scan mark passed).mode = .between
  number : (scan mark passed).done.length = number
  first : ∃ b rest, text = passed ++ b :: rest ∧ isLineEnd b = false

inductive EndsRecord (mark : ℕ) : List UInt8 → Prop
  | start : EndsRecord mark []
  | record {passed : List UInt8} {b : UInt8} (hb : isLineEnd b = true)
      (hopen : (scan mark passed).mode ≠ .between)
      (hended : (scan mark (passed ++ [b])).mode = .between) : EndsRecord mark (passed ++ [b])

/-- Where a record begins: behind the end of the one before, and line ends that are passed over. -/
structure Opening (mark : ℕ) (text before gap : List UInt8) (number : ℕ) : Prop where
  ended : EndsRecord mark before
  blank : ∀ b ∈ gap, isLineEnd b = true
  begins : BeginsBehind mark text (before ++ gap) number

variable {s : Scanner} {mark number : ℕ} {text passed before gap : List UInt8} {b : UInt8}

theorem records_eq (bytes : List UInt8) :
    records bytes = (scan (markLength bytes) (content bytes)).finish := by
  rw [records, content, markLength]
  split <;> rfl

@[simp] theorem scan_nil : scan mark [] = start mark := rfl

theorem scan_snoc (mark : ℕ) (passed : List UInt8) (b : UInt8) :
    scan mark (passed ++ [b]) = (scan mark passed).feed b := List.foldl_append

@[simp] theorem lineBehind_snoc (passed : List UInt8) (b : UInt8) :
    lineBehind (passed ++ [b]) = if b = lineFeed then lineBehind passed + 1 else lineBehind passed := by
  rw [lineBehind, lineBehind, List.count_append, List.count_singleton]
  grind

theorem lineBehind_append (passed more : List UInt8) :
    lineBehind (passed ++ more) = lineBehind passed + more.count lineFeed := by
  rw [lineBehind, lineBehind, List.count_append]
  omega

structure Within (position : Position) (records : List RawRecord) (s : Scanner) : Prop where
  mode : s.mode ≠ .between
  began : s.began = position
  done : s.done = records

structure Ended (position : Position) (records : List RawRecord) (s : Scanner) : Prop where
  mode : s.mode = .between
  began : s.began = s.here
  done : ∃ fields, s.done = ⟨position, fields⟩ :: records

theorem delimit_cases (s : Scanner) (b : UInt8) :
    (isLineEnd b = false ∧ Within s.began s.done (s.delimit b)) ∨
      (isLineEnd b = true ∧ Ended s.began s.done (s.delimit b)) := by
  rw [Scanner.delimit]
  split_ifs with hcomma hend
  · subst hcomma
    exact .inl ⟨rfl, nofun, rfl, rfl⟩
  · exact .inr ⟨hend, rfl, rfl, _, rfl⟩
  · exact .inl ⟨Bool.eq_false_iff.mpr hend, nofun, rfl, rfl⟩

theorem openField_cases (s : Scanner) (b : UInt8) :
    (isLineEnd b = false ∧ Within s.began s.done (s.openField b)) ∨
      (isLineEnd b = true ∧ Ended s.began s.done (s.openField b)) := by
  rw [Scanner.openField]
  split_ifs with hquote
  · subst hquote
    exact .inl ⟨rfl, nofun, rfl, rfl⟩
  · exact delimit_cases s b

theorem feed_cases (s : Scanner) (b : UInt8) :
    (s.mode = .between ∧ isLineEnd b = true ∧ s.feed b = { s with here := s.here.pass b }) ∨
    ((s.mode = .between → isLineEnd b = false) ∧ Within s.began s.done (s.feed b)) ∨
    (s.mode ≠ .between ∧ isLineEnd b = true ∧ Ended s.began s.done (s.feed b)) := by
  rw [Scanner.feed]
  cases hmode : s.mode with
  | between =>
      dsimp only
      split_ifs with hend
      · exact .inl ⟨rfl, hend, rfl⟩
      · obtain ⟨hb, h⟩ | ⟨hb, -⟩ := openField_cases { s with here := s.here.pass b } b
        · exact .inr (.inl ⟨fun _ => hb, h⟩)
        · exact absurd hb hend
  | opening =>
      obtain ⟨hb, h⟩ | ⟨hb, h⟩ := openField_cases { s with here := s.here.pass b } b
      · exact .inr (.inl ⟨nofun, h⟩)
      · exact .inr (.inr ⟨nofun, hb, h⟩)
  | unquoted =>
      obtain ⟨hb, h⟩ | ⟨hb, h⟩ := delimit_cases { s with here := s.here.pass b } b
      · exact .inr (.inl ⟨nofun, h⟩)
      · exact .inr (.inr ⟨nofun, hb, h⟩)
  | quoted =>
      refine .inr (.inl ⟨nofun, ?_⟩)
      simp only
      split_ifs
      · exact ⟨nofun, rfl, rfl⟩
      · exact ⟨nofun, rfl, rfl⟩
  | closing =>
      simp only
      split_ifs
      · exact .inr (.inl ⟨nofun, nofun, rfl, rfl⟩)
      · obtain ⟨hb, h⟩ | ⟨hb, h⟩ := delimit_cases { s with here := s.here.pass b } b
        · exact .inr (.inl ⟨nofun, h⟩)
        · exact .inr (.inr ⟨nofun, hb, h⟩)

theorem delimit_line (s : Scanner) (b : UInt8) : (s.delimit b).here.line = s.here.line := by
  rw [Scanner.delimit]
  split_ifs <;> rfl

theorem openField_line (s : Scanner) (b : UInt8) : (s.openField b).here.line = s.here.line := by
  rw [Scanner.openField]
  split_ifs
  · rfl
  · exact delimit_line s b

theorem feed_line (s : Scanner) (b : UInt8) : (s.feed b).here.line = (s.here.pass b).line := by
  rw [Scanner.feed]
  cases s.mode <;> simp only
  case between => split_ifs <;> simp [openField_line]
  case opening => simp [openField_line]
  case unquoted => simp [delimit_line]
  case quoted => split_ifs <;> rfl
  case closing => split_ifs <;> simp [delimit_line, Scanner.push]

theorem scan_line (mark : ℕ) (passed : List UInt8) : (scan mark passed).here.line = lineBehind passed := by
  induction passed using List.reverseRecOn with
  | nil => rfl
  | append_singleton passed b ih => rw [scan_snoc, feed_line, Position.pass, lineBehind_snoc, ih]

theorem getElem?_concat_eq_some {α : Type} {l : List α} {a x : α} {k : ℕ} :
    (l ++ [a])[k]? = some x ↔ l[k]? = some x ∨ k = l.length ∧ x = a := by
  rw [List.getElem?_append]
  grind

def Placed (mark : ℕ) (text : List UInt8) (position : Position) (number : ℕ) : Prop :=
  ∃ before gap, Opening mark text before gap number ∧ position.line = lineBehind before

theorem BeginsBehind.append (h : BeginsBehind mark text passed number) (more : List UInt8) :
    BeginsBehind mark (text ++ more) passed number := by
  obtain ⟨hmode, hnumber, b, rest, rfl, hb⟩ := h
  exact ⟨hmode, hnumber, b, rest ++ more, by simp, hb⟩

theorem Placed.append {position : Position} (h : Placed mark text position number)
    (more : List UInt8) : Placed mark (text ++ more) position number := by
  obtain ⟨before, gap, hopening, hline⟩ := h
  exact ⟨before, gap, ⟨hopening.ended, hopening.blank, hopening.begins.append more⟩, hline⟩

/-- What is known of a reader behind these bytes: where it is to look for the next record, or where the
one began that it is in, and where each record began that is done. -/
structure Tracks (mark : ℕ) (passed : List UInt8) (s : Scanner) : Prop where
  between : s.mode = .between → ∃ before gap, passed = before ++ gap ∧ EndsRecord mark before ∧
    (∀ b ∈ gap, isLineEnd b = true) ∧ s.began.line = lineBehind before
  within : s.mode ≠ .between → Placed mark passed s.began s.done.length
  done : ∀ k raw, s.done.reverse[k]? = some raw → Placed mark passed raw.position k

namespace Tracks

theorem start (mark : ℕ) : Tracks mark [] (start mark) := by
  refine ⟨fun _ => ⟨[], [], rfl, .start, nofun, rfl⟩, fun h => absurd rfl h, ?_⟩
  intro k raw h
  cases h

theorem skip {here : Position} (h : Tracks mark passed s) (hmode : s.mode = .between)
    (hb : isLineEnd b = true) : Tracks mark (passed ++ [b]) { s with here := here } := by
  obtain ⟨before, gap, rfl, hbefore, hgap, hline⟩ := h.between hmode
  refine ⟨fun _ => ⟨before, gap ++ [b], List.append_assoc .., hbefore, ?_, hline⟩,
    fun hnot => absurd hmode hnot, fun k raw hraw => (h.done k raw hraw).append [b]⟩
  simpa [or_imp, forall_and] using ⟨hgap, hb⟩

theorem placed_of_first (h : Tracks mark passed (scan mark passed))
    (hmode : (scan mark passed).mode = .between) (hb : isLineEnd b = false) :
    Placed mark (passed ++ [b]) (scan mark passed).began (scan mark passed).done.length := by
  obtain ⟨before, gap, hpassed, hbefore, hgap, hline⟩ := h.between hmode
  refine ⟨before, gap, ⟨hbefore, hgap, ?_⟩, hline⟩
  rw [← hpassed]
  exact ⟨hmode, rfl, b, [], rfl, hb⟩

theorem read (h : Tracks mark passed (scan mark passed))
    (hfirst : (scan mark passed).mode = .between → isLineEnd b = false)
    (hs : Within (scan mark passed).began (scan mark passed).done s) :
    Tracks mark (passed ++ [b]) s := by
  refine ⟨fun hmode => absurd hmode hs.mode, fun _ => ?_, ?_⟩
  · rw [hs.began, hs.done]
    by_cases hmode : (scan mark passed).mode = .between
    · exact h.placed_of_first hmode (hfirst hmode)
    · exact (h.within hmode).append [b]
  · rw [hs.done]
    exact fun k raw hraw => (h.done k raw hraw).append [b]

theorem end_record (h : Tracks mark passed (scan mark passed)) (hb : isLineEnd b = true)
    (hopen : (scan mark passed).mode ≠ .between)
    (hended : Ended (scan mark passed).began (scan mark passed).done (scan mark (passed ++ [b]))) :
    Tracks mark (passed ++ [b]) (scan mark (passed ++ [b])) := by
  obtain ⟨hmode, hbegan, fields, hdone⟩ := hended
  refine ⟨fun _ => ?_, fun hnot => absurd hmode hnot, ?_⟩
  · refine ⟨passed ++ [b], [], (List.append_nil _).symm, .record hb hopen hmode, nofun, ?_⟩
    rw [hbegan, scan_line]
  · intro k raw hraw
    rw [hdone, List.reverse_cons, getElem?_concat_eq_some, List.length_reverse] at hraw
    obtain hraw | ⟨rfl, rfl⟩ := hraw
    · exact (h.done k raw hraw).append [b]
    · exact (h.within hopen).append [b]

end Tracks

theorem tracks_scan (mark : ℕ) (passed : List UInt8) : Tracks mark passed (scan mark passed) := by
  induction passed using List.reverseRecOn with
  | nil => exact .start mark
  | append_singleton passed b ih =>
      obtain ⟨hmode, hb, heq⟩ | ⟨hfirst, hwithin⟩ | ⟨hopen, hb, hended⟩ :=
        feed_cases (scan mark passed) b
      · rw [scan_snoc, heq]
        exact ih.skip hmode hb
      · rw [scan_snoc]
        exact ih.read hfirst hwithin
      · rw [← scan_snoc] at hended
        exact ih.end_record hb hopen hended

theorem placed_of_records {bytes : List UInt8} {k : ℕ} {raw : RawRecord}
    (h : (records bytes)[k]? = some raw) :
    Placed (markLength bytes) (content bytes) raw.position k := by
  have htracks := tracks_scan (markLength bytes) (content bytes)
  rw [records_eq, Scanner.finish] at h
  split at h
  · exact htracks.done k raw h
  · next hmode =>
    rw [Scanner.endRecord, List.reverse_cons, getElem?_concat_eq_some, List.length_reverse] at h
    obtain h | ⟨rfl, rfl⟩ := h
    · exact htracks.done k raw h
    · exact htracks.within hmode

def Scanner.begun (s : Scanner) : ℕ := s.done.length + if s.mode = .between then 0 else 1

theorem begun_feed (s : Scanner) (b : UInt8) : s.begun ≤ (s.feed b).begun := by
  obtain ⟨-, -, heq⟩ | ⟨-, h⟩ | ⟨hmode, -, h⟩ := feed_cases s b
  · rw [heq]
    exact Nat.le_refl _
  · rw [Scanner.begun, Scanner.begun, h.done, if_neg h.mode]
    split <;> omega
  · obtain ⟨fields, hdone⟩ := h.done
    rw [Scanner.begun, Scanner.begun, hdone, if_neg hmode, if_pos h.mode]
    exact Nat.le_refl _

theorem begun_feed_of_first (hmode : s.mode = .between) (hb : isLineEnd b = false) :
    (s.feed b).begun = s.done.length + 1 := by
  obtain ⟨-, hend, -⟩ | ⟨-, h⟩ | ⟨hnot, -, -⟩ := feed_cases s b
  · exact absurd (hb.symm.trans hend) Bool.false_ne_true
  · rw [Scanner.begun, h.done, if_neg h.mode]
  · exact absurd hmode hnot

theorem begun_scan_append (mark : ℕ) (passed more : List UInt8) :
    (scan mark passed).begun ≤ (scan mark (passed ++ more)).begun := by
  induction more using List.reverseRecOn with
  | nil => simp
  | append_singleton more b ih =>
      rw [← List.append_assoc, scan_snoc]
      exact Nat.le_trans ih (begun_feed _ b)

theorem BeginsBehind.not_longer (h : BeginsBehind mark text passed number) {b : UInt8}
    {more : List UInt8} (hmore : passed ++ b :: more <+: text) :
    ¬ BeginsBehind mark text (passed ++ b :: more) number := by
  intro h'
  obtain ⟨c, rest, htext, hc⟩ := h.first
  have hb : b = c := by
    rw [htext, List.prefix_append_right_inj, List.cons_prefix_cons] at hmore
    exact hmore.1
  subst hb
  -- behind its first byte the record has begun, and the number of those that have never falls
  have hle := begun_scan_append mark (passed ++ [b]) more
  rw [List.append_assoc, List.singleton_append, scan_snoc, begun_feed_of_first h.mode hc, h.number,
    Scanner.begun, h'.number, if_pos h'.mode] at hle
  omega

theorem BeginsBehind.unique {passed' : List UInt8} (h : BeginsBehind mark text passed number)
    (h' : BeginsBehind mark text passed' number) : passed = passed' := by
  have hpassed : passed <+: text := by
    obtain ⟨b, rest, htext, -⟩ := h.first
    exact ⟨b :: rest, htext.symm⟩
  have hpassed' : passed' <+: text := by
    obtain ⟨b, rest, htext, -⟩ := h'.first
    exact ⟨b :: rest, htext.symm⟩
  obtain ⟨more, hmore⟩ | ⟨more, hmore⟩ := List.prefix_or_prefix_of_prefix hpassed hpassed'
  · cases more with
    | nil => rw [← hmore, List.append_nil]
    | cons b more =>
        subst hmore
        exact absurd h' (h.not_longer hpassed')
  · cases more with
    | nil => rw [← hmore, List.append_nil]
    | cons b more =>
        subst hmore
        exact absurd h (h'.not_longer hpassed)

theorem scan_blank (hmode : (scan mark before).mode = .between) (hgap : ∀ b ∈ gap, isLineEnd b = true) :
    (scan mark (before ++ gap)).mode = .between ∧
      (scan mark (before ++ gap)).done = (scan mark before).done := by
  induction gap using List.reverseRecOn with
  | nil => simpa using hmode
  | append_singleton gap b ih =>
      simp only [List.mem_append, List.mem_singleton, or_imp, forall_and, forall_eq] at hgap
      obtain ⟨hgap, hb⟩ := hgap
      obtain ⟨hmode', hdone⟩ := ih hgap
      rw [← List.append_assoc, scan_snoc]
      obtain ⟨-, -, heq⟩ | ⟨hfirst, -⟩ | ⟨hnot, -, -⟩ := feed_cases (scan mark (before ++ gap)) b
      · rw [heq]
        exact ⟨hmode', hdone⟩
      · exact absurd ((hfirst hmode').symm.trans hb) Bool.false_ne_true
      · exact absurd hmode' hnot

theorem Opening.gap_eq_nil (h : Opening mark text before gap number) (hnumber : 0 < number)
    (hreturn : carriageReturn ∉ text) (hempty : ¬ [lineFeed, lineFeed] <:+: text) : gap = [] := by
  obtain ⟨c, rest, htext, -⟩ := h.begins.first
  have hfeed {b : UInt8} (hb : isLineEnd b = true) (hmem : b ∈ text) : b = lineFeed := by
    rw [isLineEnd, Bool.or_eq_true, beq_iff_eq, beq_iff_eq] at hb
    exact hb.resolve_right fun heq => hreturn (heq ▸ hmem)
  cases h.ended with
  | start =>
      have hmode : (scan mark []).mode = .between := rfl
      have hlength := h.begins.number
      rw [(scan_blank hmode h.blank).2] at hlength
      exact absurd hnumber (hlength ▸ Nat.lt_irrefl 0)
  | @record passed b hb _ _ =>
      cases hgap : gap with
      | nil => rfl
      | cons g gap' =>
          subst hgap
          have hg := hfeed (h.blank g List.mem_cons_self) (by simp [htext])
          have hb' := hfeed hb (by simp [htext])
          refine absurd ⟨passed, gap' ++ c :: rest, ?_⟩ hempty
          rw [htext, hg, hb']
          simp

end SiteSafety.Csv
