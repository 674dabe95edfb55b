import SiteSafety.Json.Schema
import SiteSafety.Proofs.Json.Lexeme

namespace SiteSafety.Json

variable {c : Char} {cs ds rest left : List Char}

def NoDigit (rest : List Char) : Prop := ∀ c ∈ rest.head?, c.isDigit = false

def NoFraction (rest : List Char) : Prop := ∀ c ∈ rest.head?, c.isDigit = false ∧ c ≠ '.'

/-- Nothing comes next that a numeral could go on with. -/
def EndsNumeral (rest : List Char) : Prop :=
  ∀ c ∈ rest.head?, c.isDigit = false ∧ c ≠ '.' ∧ c ≠ 'e' ∧ c ≠ 'E'

theorem takeDigits_eq (h : Decimal.takeDigits cs = (ds, left)) :
    cs = ds ++ left ∧ ∀ c ∈ ds, c.isDigit = true := by
  rw [Decimal.takeDigits, List.span_eq_takeWhile_dropWhile, Prod.mk.injEq] at h
  obtain ⟨rfl, rfl⟩ := h
  exact ⟨List.takeWhile_append_dropWhile.symm, fun c hc => List.mem_takeWhile_imp hc⟩

theorem takeDigits_append (hds : ∀ c ∈ ds, c.isDigit = true) (hrest : NoDigit rest) :
    Decimal.takeDigits (ds ++ rest) = (ds, rest) := by
  rw [Decimal.takeDigits, List.span_eq_takeWhile_dropWhile, List.takeWhile_append_of_pos hds,
    List.dropWhile_append_of_pos hds]
  cases rest with
  | nil => rw [List.takeWhile_nil, List.dropWhile_nil, List.append_nil]
  | cons c rest =>
      have hc : ¬ c.isDigit = true := by rw [hrest c rfl]; exact Bool.false_ne_true
      rw [List.takeWhile_cons_of_neg hc, List.dropWhile_cons_of_neg hc, List.append_nil]

theorem readDigits_append (hne : ds ≠ []) (hds : ∀ c ∈ ds, c.isDigit = true) (hrest : NoDigit rest) :
    readDigits (ds ++ rest) = .ok (ds, rest) := by
  rw [readDigits, takeDigits_append hds hrest]
  cases ds with
  | nil => exact absurd rfl hne
  | cons d ds => rfl

theorem readDigits_eq_ok (h : readDigits cs = .ok (ds, left)) :
    cs = ds ++ left ∧ ds ≠ [] ∧ ∀ c ∈ ds, c.isDigit = true := by
  rw [readDigits] at h
  split at h
  · cases h
  · cases h
  · next _ hne htake =>
    cases h
    obtain ⟨hcs, hdigits⟩ := takeDigits_eq htake
    exact ⟨hcs, hne, hdigits⟩

theorem readWhole_zero (hrest : NoDigit rest) : readWhole ('0' :: rest) = .ok (['0'], rest) := by
  cases rest with
  | nil => rfl
  | cons c rest => rw [readWhole, hrest c rfl, if_neg Bool.false_ne_true]

theorem readWhole_eq_ok (h : readWhole cs = .ok (ds, left)) :
    cs = ds ++ left ∧ ds ≠ [] ∧
      ∀ rest, NoDigit rest → readWhole (ds ++ rest) = .ok (ds, rest) := by
  unfold readWhole at h
  split at h
  · split at h
    · cases h
      exact ⟨rfl, List.cons_ne_nil _ _, fun _ => readWhole_zero⟩
    · split at h
      · cases h
      · cases h
        exact ⟨rfl, List.cons_ne_nil _ _, fun _ => readWhole_zero⟩
  · next hzero =>
    obtain ⟨rfl, hne, hdigits⟩ := readDigits_eq_ok h
    refine ⟨rfl, hne, fun rest hrest => ?_⟩
    rw [readWhole, readDigits_append hne hdigits hrest]
    cases ds with
    | nil => exact absurd rfl hne
    | cons d ds =>
      rintro rest' ⟨⟩
      exact hzero _ rfl

theorem readFraction_eq_ok {fraction : Option (List Char)}
    (h : readFraction cs = .ok (fraction, left)) :
    ∃ used, cs = used ++ left ∧ ∀ rest, NoFraction rest →
      NoDigit (used ++ rest) ∧ readFraction (used ++ rest) = .ok (fraction, rest) := by
  unfold readFraction at h
  split at h
  · next cs =>
    cases hread : readDigits cs with
    | error e =>
        rw [hread] at h
        cases h
    | ok r =>
        rw [hread] at h
        cases h
        obtain ⟨rfl, hne, hdigits⟩ := readDigits_eq_ok hread
        refine ⟨'.' :: r.1, rfl, fun rest hrest => ⟨?_, ?_⟩⟩
        · rintro c ⟨⟩
          rfl
        · rw [List.cons_append, readFraction, readDigits_append hne hdigits fun c hc => (hrest c hc).1]
          rfl
  · cases h
    refine ⟨[], rfl, fun rest hrest => ⟨fun c hc => (hrest c hc).1, ?_⟩⟩
    unfold readFraction
    split
    · next heq =>
      rw [List.nil_append] at heq
      exact absurd rfl (hrest '.' (heq ▸ rfl)).2
    · rfl

theorem takeSign_append {negative : Bool} (h : Decimal.takeSign cs = (negative, ds ++ left))
    (hne : ds ≠ []) (hdigits : ∀ c ∈ ds, c.isDigit = true) :
    ∃ used, cs = used ++ left ∧
      ∀ rest, Decimal.takeSign (used ++ rest) = (negative, ds ++ rest) := by
  unfold Decimal.takeSign at h
  split at h
  · cases h
    exact ⟨'-' :: ds, rfl, fun _ => rfl⟩
  · cases h
    exact ⟨'+' :: ds, rfl, fun _ => rfl⟩
  · cases h
    refine ⟨ds, rfl, fun rest => ?_⟩
    cases ds with
    | nil => exact absurd rfl hne
    | cons d ds =>
        have hd := hdigits d List.mem_cons_self
        unfold Decimal.takeSign
        split
        · next heq =>
          cases heq
          cases hd
        · next heq =>
          cases heq
          cases hd
        · rfl

theorem readExponent_eq_ok {exponent : Option Int}
    (h : readExponent cs = .ok (exponent, left)) :
    ∃ used, cs = used ++ left ∧ ∀ rest, EndsNumeral rest →
      NoFraction (used ++ rest) ∧ readExponent (used ++ rest) = .ok (exponent, rest) := by
  have hnone (rest : List Char) (hrest : EndsNumeral rest) : NoFraction ([] ++ rest) ∧
      readExponent ([] ++ rest) = .ok (none, rest) := by
    refine ⟨fun c hc => ⟨(hrest c hc).1, (hrest c hc).2.1⟩, ?_⟩
    cases rest with
    | nil => rfl
    | cons c rest =>
        obtain ⟨-, -, he, hE⟩ := hrest c rfl
        exact if_neg (not_or.mpr ⟨he, hE⟩)
  unfold readExponent at h
  split at h
  · cases h
    exact ⟨[], rfl, hnone⟩
  · next e cs =>
    split at h
    · next he =>
      generalize hsign : Decimal.takeSign cs = signed at h
      obtain ⟨negative, after⟩ := signed
      cases hread : readDigits after with
      | error e =>
          simp only [hread] at h
          cases h
      | ok r =>
          simp only [hread] at h
          cases h
          obtain ⟨rfl, hne, hdigits⟩ := readDigits_eq_ok hread
          obtain ⟨used, rfl, hused⟩ := takeSign_append hsign hne hdigits
          refine ⟨e :: used, rfl, fun rest hrest => ⟨?_, ?_⟩⟩
          · rintro c ⟨⟩
            rcases he with rfl | rfl <;> decide
          · simp only [List.cons_append, readExponent, if_pos he, hused,
              readDigits_append hne hdigits fun c hc => (hrest c hc).1]
            rfl
    · cases h
      exact ⟨[], rfl, hnone⟩

def numeralOf (negative : Bool) (digits : List Char) (fraction : Option (List Char))
    (exponent : Option Int) : Except Refusal Numeral :=
  let d := Decimal.clipped digits (fraction.getD [])
  let x := Decimal.approximation ⟨d.significand, d.exponent + exponent.getD 0⟩
  if x.isInf then .error .malformed
  else if negative then .ok (.real (-x))
  else if fraction.isNone && exponent.isNone && d.exponent == 0 then .ok (.whole d.significand)
  else .ok (.real x)

theorem readNumeral_eq (negative : Bool) (cs : List Char) :
    readNumeral negative cs = (do
      let (digits, cs) ← readWhole cs
      let (fraction, cs) ← readFraction cs
      let (exponent, cs) ← readExponent cs
      (numeralOf negative digits fraction exponent).map (·, cs)) := by
  rw [readNumeral]
  refine bind_congr fun r => bind_congr fun s => bind_congr fun t => ?_
  simp only [numeralOf]
  repeat' split
  all_goals rfl

theorem readNumeral_eq_ok {negative : Bool} {n : Numeral}
    (h : readNumeral negative cs = .ok (n, left)) :
    ∃ used, cs = used ++ left ∧ used ≠ [] ∧
      ∀ rest, EndsNumeral rest → readNumeral negative (used ++ rest) = .ok (n, rest) := by
  simp only [readNumeral_eq, bind_eq_ok] at h
  obtain ⟨⟨digits, cs₁⟩, h₁, ⟨fraction, cs₂⟩, h₂, ⟨exponent, cs₃⟩, h₃, h⟩ := h
  cases hn : numeralOf negative digits fraction exponent with
  | error e =>
      rw [hn] at h
      cases h
  | ok n' =>
      rw [hn] at h
      cases h
      obtain ⟨rfl, hne, hwhole⟩ := readWhole_eq_ok h₁
      obtain ⟨usedFraction, rfl, hfraction⟩ := readFraction_eq_ok h₂
      obtain ⟨usedExponent, rfl, hexponent⟩ := readExponent_eq_ok h₃
      refine ⟨digits ++ (usedFraction ++ usedExponent), by simp only [List.append_assoc],
        List.append_ne_nil_of_left_ne_nil hne _, fun rest hrest => ?_⟩
      obtain ⟨hnoFraction, hexponent⟩ := hexponent rest hrest
      obtain ⟨hnoDigit, hfraction⟩ := hfraction _ hnoFraction
      simp only [List.append_assoc, readNumeral_eq, hwhole _ hnoDigit, ok_bind, hfraction, hexponent,
        hn]
      rfl

def Solid (cs : List Char) : Prop := ∀ c ∈ cs, isBlank c = false

theorem solid_nil : Solid [] := List.forall_mem_nil _

theorem solid_cons : Solid (c :: cs) ↔ isBlank c = false ∧ Solid cs := List.forall_mem_cons

theorem solid_append : Solid (cs ++ ds) ↔ Solid cs ∧ Solid ds := List.forall_mem_append

theorem Solid.of_subset (h : Solid cs) (hds : ds ⊆ cs) : Solid ds := fun c hc => h c (hds hc)

theorem isBlank_of_isDigit (h : c.isDigit = true) : isBlank c = false := by
  cases hblank : isBlank c with
  | false => rfl
  | true =>
      simp only [isBlank, Bool.or_eq_true, beq_iff_eq] at hblank
      rcases hblank with ((rfl | rfl) | rfl) | rfl <;> cases h

theorem solid_digitsOf (n : ℕ) : Solid (Decimal.digitsOf n) :=
  fun _ hc => isBlank_of_isDigit (Nat.isDigit_of_mem_toDigits (by decide) (by decide) hc)

theorem solid_zeros (n : ℕ) : Solid (Decimal.zeros n) :=
  fun _ hc => List.eq_of_mem_replicate hc ▸ rfl

theorem solid_scaled (d : Decimal) : Solid (Decimal.scaled d).digits :=
  (solid_digitsOf d.significand).of_subset fun _ hc =>
    List.mem_reverse.mp ((List.dropWhile_sublist _).mem (List.mem_reverse.mp hc))

section Scaled

variable {s : Decimal.Scaled} (hs : Solid s.digits)
include hs

theorem solid_split : Solid (Decimal.split s).1 ∧ Solid (Decimal.split s).2 := by
  unfold Decimal.split
  split
  · exact ⟨solid_cons.mpr ⟨rfl, solid_nil⟩, solid_append.mpr ⟨solid_zeros _, hs⟩⟩
  · exact ⟨solid_append.mpr ⟨hs.of_subset (List.take_subset _ _), solid_zeros _⟩,
      hs.of_subset (List.drop_subset _ _)⟩

theorem solid_positional : Solid (Decimal.positional s) := by
  obtain ⟨hwhole, hfraction⟩ := solid_split hs
  rw [Decimal.positional]
  split
  · next heq =>
    rw [heq] at hwhole
    exact hwhole
  · next heq =>
    rw [heq] at hwhole hfraction
    exact solid_append.mpr ⟨hwhole, solid_cons.mpr ⟨rfl, hfraction⟩⟩

theorem solid_pointed : Solid (Decimal.pointed s) := by
  obtain ⟨hwhole, hfraction⟩ := solid_split hs
  rw [Decimal.pointed]
  split
  · next heq =>
    rw [heq] at hwhole
    exact solid_append.mpr ⟨hwhole, by simp [Solid, isBlank]⟩
  · next heq =>
    rw [heq] at hwhole hfraction
    exact solid_append.mpr ⟨hwhole, solid_cons.mpr ⟨rfl, hfraction⟩⟩

theorem solid_exponential : Solid (Decimal.exponential s) := by
  have hsigned (n : ℤ) : Solid (Decimal.signed n) := by
    rw [Decimal.signed]
    split <;> exact solid_cons.mpr ⟨rfl, solid_digitsOf _⟩
  refine solid_append.mpr ⟨?_, solid_cons.mpr ⟨rfl, hsigned _⟩⟩
  split
  · simp [Solid, isBlank]
  · next heq => exact heq ▸ hs
  · next heq =>
    obtain ⟨hd, hds⟩ := solid_cons.mp (heq ▸ hs)
    exact solid_cons.mpr ⟨hd, solid_cons.mpr ⟨rfl, hds⟩⟩

end Scaled

theorem solid_withSign {x : Float} (h : Solid cs) : Solid (Decimal.withSign x cs) := by
  rw [Decimal.withSign]
  split
  · exact solid_cons.mpr ⟨rfl, h⟩
  · exact h

theorem solid_documentChars (x : Float) : Solid (Decimal.documentChars x) := by
  rw [Decimal.documentChars]
  split
  · simp [Solid, isBlank]
  · refine solid_withSign ?_
    split
    · simp [Solid, isBlank]
    · have hs := solid_scaled (Decimal.shortest .even x.abs)
      dsimp only
      split
      · exact solid_pointed hs
      · exact solid_exponential hs

theorem solid_plainChars (x : Float) : Solid (Decimal.plainChars x) := by
  rw [Decimal.plainChars]
  split
  · simp [Solid, isBlank]
  · refine solid_withSign ?_
    split
    · simp [Solid, isBlank]
    · split
      · simp [Solid, isBlank]
      · exact solid_positional (solid_scaled (Decimal.shortest .up x.abs))

/-- What stands in a document for the number is read as that number. -/
def ReadsBack (x : Float) : Prop := Schema.float.read (Schema.float.write x) = .ok x

instance : DecidablePred ReadsBack := fun _ => inferInstanceAs (Decidable (_ = _))

theorem skipBlanks_of_solid (h : Solid cs) : skipBlanks cs = cs := by
  cases cs with
  | nil => rfl
  | cons c cs => exact skipBlanks_cons (h c List.mem_cons_self)

theorem eq_nil_of_skipBlanks (h : Solid cs) (hskip : (skipBlanks cs).isEmpty = true) : cs = [] := by
  rw [skipBlanks_of_solid h] at hskip
  exact List.isEmpty_iff.mp hskip

def StartsNumeral (cs : List Char) : Prop :=
  ∃ c rest, cs = c :: rest ∧ (c = '-' ∨ c.isDigit = true)

theorem numeral_eq_ok {n : Numeral} (h : numeral cs = .ok (n, left)) :
    ∃ used, skipBlanks cs = used ++ left ∧ StartsNumeral used ∧
      ∀ rest, EndsNumeral rest → numeral (used ++ rest) = .ok (n, rest) := by
  rw [numeral] at h
  split at h
  · cases h
  · next c cs heq =>
    split at h
    · next hminus =>
      obtain ⟨used, rfl, -, hused⟩ := readNumeral_eq_ok h
      refine ⟨c :: used, heq, ⟨c, used, rfl, .inl hminus⟩, fun rest hrest => ?_⟩
      have hblank : isBlank c = false := hminus ▸ rfl
      rw [numeral, List.cons_append, skipBlanks_cons hblank]
      simp only [if_pos hminus]
      exact hused rest hrest
    · next hminus =>
      split at h
      · next hdigit =>
        obtain ⟨used, hsplit, hne, hused⟩ := readNumeral_eq_ok h
        cases used with
        | nil => exact absurd rfl hne
        | cons d used =>
            cases hsplit
            refine ⟨c :: used, heq, ⟨c, used, rfl, .inr hdigit⟩, fun rest hrest => ?_⟩
            have hblank : isBlank c = false := isBlank_of_isDigit hdigit
            rw [numeral, List.cons_append, skipBlanks_cons hblank]
            simp only [if_neg hminus, if_pos hdigit]
            exact hused rest hrest
      · cases h

/-- A number that reads back on its own does so in front of anything that ends a numeral. -/
theorem numeral_documentChars {x : Float} (h : ReadsBack x) :
    StartsNumeral (Decimal.documentChars x) ∧ ∃ n : Numeral, n.toFloat = x ∧
      ∀ rest, EndsNumeral rest → numeral (Decimal.documentChars x ++ rest) = .ok (n, rest) := by
  have hsolid := solid_documentChars x
  obtain ⟨j, hread, hj⟩ := bind_eq_ok.mp h
  obtain ⟨⟨j', left⟩, hform, hend⟩ := bind_eq_ok.mp hread
  rw [Schema.write, compact, String.toList_ofList] at hform
  change (numeral (Decimal.documentChars x)).map (fun r => (number r.1.toFloat, r.2)) = _ at hform
  cases hnumeral : numeral (Decimal.documentChars x) with
  | error e =>
      rw [hnumeral] at hform
      cases hform
  | ok r =>
      obtain ⟨n, left⟩ := r
      rw [hnumeral] at hform
      cases hform
      obtain ⟨used, hsplit, hstarts, hused⟩ := numeral_eq_ok hnumeral
      rw [skipBlanks_of_solid hsolid] at hsplit
      obtain rfl : left = [] := by
        refine eq_nil_of_skipBlanks (hsolid.of_subset (hsplit ▸ List.subset_append_right _ _)) ?_
        by_contra hne
        simp only [if_neg hne] at hend
        cases hend
      rw [List.append_nil] at hsplit
      rw [hsplit]
      refine ⟨hstarts, n, ?_, hused⟩
      simp only [skipBlanks, List.dropWhile_nil, List.isEmpty_nil, if_true] at hend
      cases hend
      cases hj
      rfl

/-- Not every finite number does, as a significand is rounded before it is scaled. -/
example : ¬ ReadsBack 9007199254740991 := by decide +kernel

end SiteSafety.Json
