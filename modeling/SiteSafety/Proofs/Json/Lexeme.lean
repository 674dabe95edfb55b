import SiteSafety.Proofs.Json.Layout
import SiteSafety.Proofs.Text
import SiteSafety.Proofs.Validation

namespace SiteSafety.Json

variable {c : Char} {cs rest : List Char}

theorem skipBlanks_append (b : Blanks) (cs : List Char) :
    skipBlanks (b.chars ++ cs) = skipBlanks cs := by
  rw [skipBlanks, List.dropWhile_append_of_pos b.blank]
  rfl

theorem skipBlanks_cons (h : isBlank c = false) : skipBlanks (c :: cs) = c :: cs :=
  List.dropWhile_cons_of_neg (by rw [h]; exact Bool.false_ne_true)

theorem hex4_control {n : ℕ} (h : n < 32) (rest : List Char) :
    hex4 ('0' :: '0' :: Hex.digit (n / 16) :: Hex.digit n :: rest) = .ok n := by
  have hall : ∀ n < 32, hex4 ['0', '0', Hex.digit (n / 16), Hex.digit n] = .ok n := by decide
  exact hall n h

theorem unescape_control {n : ℕ} (h : n < 32) (rest : List Char) :
    unescape ('u' :: '0' :: '0' :: Hex.digit (n / 16) :: Hex.digit n :: rest) =
      .ok (Char.ofNat n, 5) := by
  have hlow : isLowSurrogate n = false := by
    rw [isLowSurrogate, decide_eq_false (by omega), Bool.false_and]
  have hhigh : isHighSurrogate n = false := by
    rw [isHighSurrogate, decide_eq_false (by omega), Bool.false_and]
  rw [unescape, codePoint, hex4_control h, ok_bind, hlow, hhigh]
  rfl

theorem unescape_simple (hu : c ≠ 'u') {d : Char} (h : simpleEscape? c = some d) :
    unescape (c :: rest) = .ok (d, 1) := by
  rw [unescape, h]
  exact hu

theorem readChars_escape (cs : List Char) {d : Char}
    (h : unescape (cs ++ rest) = .ok (d, cs.length)) :
    readChars ('\\' :: cs ++ rest) = (readChars rest).map fun r => (d :: r.1, r.2) := by
  rw [List.cons_append, readChars, if_neg (by decide), if_pos rfl]
  simp only [h, List.drop_left]

theorem readChars_simple (hu : c ≠ 'u') {d : Char} (h : simpleEscape? c = some d) :
    readChars (['\\', c] ++ rest) = (readChars rest).map fun r => (d :: r.1, r.2) :=
  readChars_escape [c] (unescape_simple hu h)

theorem readChars_plain (hquote : c ≠ '"') (hslash : c ≠ '\\') (hcontrol : ¬ c.toNat < 32) :
    readChars ([c] ++ rest) = (readChars rest).map fun r => (c :: r.1, r.2) := by
  rw [List.singleton_append, readChars, if_neg hquote, if_neg hslash, if_neg hcontrol]

theorem readChars_escapedChar (c : Char) (rest : List Char) :
    readChars (escapedChar c ++ rest) = (readChars rest).map fun r => (c :: r.1, r.2) := by
  by_cases hquote : c = '"'
  · subst hquote
    exact readChars_simple (c := '"') (by decide) rfl
  by_cases hslash : c = '\\'
  · subst hslash
    exact readChars_simple (c := '\\') (by decide) rfl
  by_cases hline : c = '\n'
  · subst hline
    exact readChars_simple (c := 'n') (by decide) rfl
  by_cases hreturn : c = '\r'
  · subst hreturn
    exact readChars_simple (c := 'r') (by decide) rfl
  by_cases htab : c = '\t'
  · subst htab
    exact readChars_simple (c := 't') (by decide) rfl
  by_cases hback : c.toNat = 8
  · obtain rfl : c = Char.ofNat 8 := by rw [← hback, Char.ofNat_toNat]
    exact readChars_simple (c := 'b') (by decide) rfl
  by_cases hfeed : c.toNat = 12
  · obtain rfl : c = Char.ofNat 12 := by rw [← hfeed, Char.ofNat_toNat]
    exact readChars_simple (c := 'f') (by decide) rfl
  rw [escapedChar, if_neg hquote, if_neg hslash, if_neg hline, if_neg hreturn, if_neg htab,
    if_neg hback, if_neg hfeed]
  by_cases hcontrol : c.toNat < 32
  · have hread := unescape_control hcontrol rest
    rw [Char.ofNat_toNat] at hread
    rw [if_pos hcontrol]
    exact readChars_escape _ hread
  · rw [if_neg hcontrol]
    exact readChars_plain hquote hslash hcontrol

theorem readChars_flatMap (cs rest : List Char) :
    readChars (cs.flatMap escapedChar ++ '"' :: rest) = .ok (cs, rest) := by
  induction cs with
  | nil => rw [List.flatMap_nil, List.nil_append, readChars, if_pos rfl]
  | cons c cs ih =>
      rw [List.flatMap_cons, List.append_assoc, readChars_escapedChar, ih]
      rfl

theorem readText_flatMap (s : String) (rest : List Char) :
    readText (s.toList.flatMap escapedChar ++ '"' :: rest) = .ok (s, rest) := by
  rw [readText, readChars_flatMap]
  exact congrArg (fun t => Except.ok (t, rest)) String.ofList_toList

theorem textChars_append (s : String) (rest : List Char) :
    textChars s ++ rest = '"' :: (s.toList.flatMap escapedChar ++ '"' :: rest) := by
  rw [textChars, List.cons_append, List.cons_append, List.append_assoc]
  rfl

end SiteSafety.Json
