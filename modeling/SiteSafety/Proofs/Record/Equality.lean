import SiteSafety.Proofs.Float.Word
import SiteSafety.Proofs.Record.Field

namespace SiteSafety.Record

theorem all_zip_words (a b : Record) (p : Binary64 × Binary64 → Bool) :
    (a.words.zip b.words).all p = true ↔ ∀ q, p (a.quantity q, b.quantity q) = true := by
  rw [words_eq, words_eq, List.zip_map', List.all_map, List.all_eq_true]
  exact ⟨fun h q => h q q.mem_all, fun h q _ => h q⟩

structure SameMarks (a b : Record) : Prop where
  context : a.context = b.context
  conservationOk : a.conservationOk = b.conservationOk
  reservedFlags : a.reservedFlags = b.reservedFlags
  reserved : a.reserved = b.reserved

def HasNaN (r : Record) : Prop := ∃ q, (r.quantity q).IsNaN

def HasZero (r : Record) : Prop := ∃ q, (r.quantity q).IsZero

variable {a b : Record}

theorem sameMarks_iff : sameMarks a b = true ↔ a.SameMarks b := by
  rw [sameMarks, Bool.and_eq_true, Bool.and_eq_true, Bool.and_eq_true, beq_iff_eq, beq_iff_eq,
    beq_iff_eq, beq_iff_eq]
  constructor
  · rintro ⟨⟨⟨hcontext, hflag⟩, hflags⟩, hpadding⟩
    exact ⟨hcontext, hflag, hflags, hpadding⟩
  · rintro ⟨hcontext, hflag, hflags, hpadding⟩
    exact ⟨⟨⟨hcontext, hflag⟩, hflags⟩, hpadding⟩

theorem sameMarks_refl (r : Record) : r.SameMarks r := ⟨rfl, rfl, rfl, rfl⟩

theorem eq_of_quantities (hmarks : a.SameMarks b) (h : ∀ q, a.quantity q = b.quantity q) : a = b := by
  have hwords : a.words = b.words := words_eq_iff.mpr h
  exact eq_of_words hmarks.context hmarks.conservationOk hmarks.reservedFlags hwords hmarks.reserved

theorem sameBits_iff_quantities :
    sameBits a b = true ↔ a.SameMarks b ∧ ∀ q, a.quantity q = b.quantity q := by
  rw [sameBits, Bool.and_eq_true, sameMarks_iff, all_zip_words]
  refine and_congr_right fun _ => forall_congr' fun q => ?_
  rw [beq_iff_eq]
  exact ⟨congrArg Binary64.mk, congrArg Binary64.bits⟩

theorem sameBits_iff : sameBits a b = true ↔ a = b := by
  rw [sameBits_iff_quantities]
  constructor
  · rintro ⟨hmarks, h⟩
    exact eq_of_quantities hmarks h
  · rintro rfl
    exact ⟨sameMarks_refl a, fun _ => rfl⟩

theorem encode_injective : Function.Injective encode := by
  intro a b h
  have ha := decode_encode a []
  rw [h, decode_encode] at ha
  exact (Except.ok.inj ha).symm

theorem sameNumbers_iff : sameNumbers a b = true ↔ a.SameMarks b ∧
    ∀ q, ¬ (a.quantity q).IsNaN ∧ ¬ (b.quantity q).IsNaN ∧
      (a.quantity q = b.quantity q ∨ (a.quantity q).IsZero ∧ (b.quantity q).IsZero) := by
  rw [sameNumbers, Bool.and_eq_true, sameMarks_iff, all_zip_words]
  simp only [Binary64.sameNumber_iff]

theorem sameNumbers_self_iff (r : Record) : sameNumbers r r = true ↔ ¬ r.HasNaN := by
  rw [sameNumbers_iff, HasNaN, not_exists]
  constructor
  · rintro ⟨-, h⟩ q
    exact (h q).1
  · intro h
    exact ⟨sameMarks_refl r, fun q => ⟨h q, h q, .inl rfl⟩⟩

/-- Bit by bit, two records are equal when they are written alike, and then no part tells them apart.
Number by number, no quantity may be a NaN, and two zeros are equal whatever their signs. The two differ
in nothing else. -/
theorem equalities (a b : Record) :
    (sameBits a b = true ↔ a.encode = b.encode) ∧
    (sameBits a b = true ↔ ∀ f, a.get f = b.get f) ∧
    (Equivalence fun r r' : Record => sameBits r r' = true) ∧
    (sameNumbers a b = true ↔ a.SameMarks b ∧ ¬ a.HasNaN ∧ ¬ b.HasNaN ∧
      ∀ q, a.quantity q = b.quantity q ∨ (a.quantity q).IsZero ∧ (b.quantity q).IsZero) ∧
    (¬ a.HasNaN → ¬ a.HasZero → (sameBits a b = true ↔ sameNumbers a b = true)) ∧
    (sameBits a b = true → (sameNumbers a b = true ↔ ¬ a.HasNaN)) := by
  refine ⟨?_, ?_, ?_, ?_, ?_, ?_⟩
  · rw [sameBits_iff]
    exact encode_injective.eq_iff.symm
  · rw [sameBits_iff]
    exact ⟨fun h f => by rw [h], eq_of_get⟩
  · simp only [sameBits_iff]
    exact eq_equivalence
  · rw [sameNumbers_iff, HasNaN, HasNaN, not_exists, not_exists]
    simp only [forall_and]
  · intro hnan hzero
    constructor
    · intro h
      obtain rfl := sameBits_iff.mp h
      exact (sameNumbers_self_iff a).mpr hnan
    · intro h
      obtain ⟨hmarks, hnumbers⟩ := sameNumbers_iff.mp h
      refine sameBits_iff_quantities.mpr ⟨hmarks, fun q => ?_⟩
      exact (hnumbers q).2.2.resolve_right fun hq => hzero ⟨q, hq.1⟩
  · intro h
    obtain rfl := sameBits_iff.mp h
    exact sameNumbers_self_iff a

/-- A record of zeros with one sign turned is another record of the same numbers, and with a NaN it is not
even equal to itself. -/
theorem equalities_zeros :
    let zeros := ofBytes .urban false []
    let turned := { zeros with residual := ⟨.ofFloat (-0), .zero⟩ }
    let undefined := { zeros with residual := ⟨⟨0xfff0000000000001⟩, .zero⟩ }
    zeros.encode ≠ turned.encode ∧ sameNumbers zeros turned = true ∧
      sameBits undefined undefined = true ∧ sameNumbers undefined undefined = false := by
  intro zeros turned undefined
  have hbits : sameBits zeros turned = false := by decide +kernel
  have hnumbers : sameNumbers zeros turned = true := by decide +kernel
  have hnan : undefined.HasNaN := ⟨.massResidual, by decide +kernel⟩
  refine ⟨fun h => ?_, hnumbers, ?_, ?_⟩
  · rw [(equalities zeros turned).1.mpr h] at hbits
    cases hbits
  · exact (equalities undefined undefined).1.mpr rfl
  · rw [← Bool.not_eq_true]
    intro h
    exact (equalities undefined undefined).2.2.2.1.mp h |>.2.1 hnan

end SiteSafety.Record
