import SiteSafety.SiteState
import SiteSafety.Proofs.Float.Basic

namespace SiteSafety.Binary64

open Float.Model.UnpackedFloat

def exponentField (w : Binary64) : ℕ := w.bits.toNat / 2 ^ 52 % 2 ^ 11

def significandField (w : Binary64) : ℕ := w.bits.toNat % 2 ^ 52

def IsNaN (w : Binary64) : Prop := w.exponentField = 2047 ∧ w.significandField ≠ 0

def IsZero (w : Binary64) : Prop := w.exponentField = 0 ∧ w.significandField = 0

instance (w : Binary64) : Decidable w.IsNaN := inferInstanceAs (Decidable (_ ∧ _))

instance (w : Binary64) : Decidable w.IsZero := inferInstanceAs (Decidable (_ ∧ _))

theorem eq_ofFloat_iff {w : Binary64} {x : Float} : w = ofFloat x ↔ w.bits.toNat = x.toBits.toNat := by
  rw [UInt64.toNat_inj]
  exact ⟨congrArg bits, congrArg Binary64.mk⟩

theorem isZero_iff {w : Binary64} : w.IsZero ↔ w = ofFloat 0 ∨ w = ofFloat (-0) := by
  have hlt := w.bits.toNat_lt
  have hpositive : (0 : Float).toBits.toNat = 0 := rfl
  have hnegative : (-0 : Float).toBits.toNat = 2 ^ 63 := rfl
  rw [eq_ofFloat_iff, eq_ofFloat_iff, hpositive, hnegative, IsZero, exponentField, significandField]
  omega

theorem isNaNBits_iff {w : Binary64} : @isNaNBits .binary64 w.bits.toBitVec = true ↔ w.IsNaN := by
  have hexponent : (@unpackExponent .binary64 w.bits.toBitVec).toNat = w.exponentField := by
    rw [unpackExponent_def, BitVec.extractLsb'_toNat, Nat.shiftRight_eq_div_pow]
    rfl
  have hsignificand : (@unpackMantissa .binary64 w.bits.toBitVec).toNat = w.significandField := by
    rw [unpackMantissa_def, BitVec.extractLsb'_toNat, Nat.shiftRight_zero]
    rfl
  rw [isNaNBits, decide_eq_true_iff, IsNaN, ← BitVec.toNat_inj, ne_eq, ← BitVec.toNat_inj, hexponent,
    hsignificand]
  rfl

theorem toBits_toFloat (w : Binary64) :
    w.toFloat.toBits = if w.IsNaN then Float.nan.toBits else w.bits := by
  have hpack : w.toFloat.toBits.toBitVec =
      if @isNaNBits .binary64 w.bits.toBitVec then packedNaN .binary64 else w.bits.toBitVec :=
    pack_unpack _
  rw [← UInt64.toBitVec_inj, hpack]
  simp only [isNaNBits_iff]
  split
  · rfl
  · rfl

theorem toFloat_eq_nan_iff {w : Binary64} : w.toFloat = Float.nan ↔ w.IsNaN := by
  rw [← Float.toBits_inj, toBits_toFloat]
  split
  · next h => exact iff_of_true rfl h
  · next h =>
    -- The packed NaN carries a NaN itself, so no other word is turned into it.
    refine iff_of_false (fun hbits => h ?_) h
    have hw : w = ⟨Float.nan.toBits⟩ := congrArg Binary64.mk hbits
    rw [hw]
    decide +kernel

theorem isNaN_toFloat {w : Binary64} : w.toFloat.isNaN = true ↔ w.IsNaN := by
  rw [Float.isNaN_eq_decide_eq_nan, decide_eq_true_iff, toFloat_eq_nan_iff]

theorem ofFloat_toFloat {w : Binary64} (h : ¬ w.IsNaN) : ofFloat w.toFloat = w := by
  rw [ofFloat, toBits_toFloat, if_neg h]

theorem toFloat_eq_iff {w : Binary64} (h : ¬ w.IsNaN) {x : Float} : w.toFloat = x ↔ w = ofFloat x := by
  rw [eq_ofFloat_iff, UInt64.toNat_inj, ← Float.toBits_inj, toBits_toFloat, if_neg h]

theorem sameNumber_iff {v w : Binary64} :
    v.sameNumber w = true ↔ ¬ v.IsNaN ∧ ¬ w.IsNaN ∧ (v = w ∨ v.IsZero ∧ w.IsZero) := by
  rw [sameNumber, Float.beq_iff_ne_nan_and_eq, ne_eq, ne_eq, toFloat_eq_nan_iff, toFloat_eq_nan_iff]
  refine and_congr_right fun hv => and_congr_right fun hw => ?_
  rw [toFloat_eq_iff hv, ofFloat_toFloat hw, toFloat_eq_iff hv, toFloat_eq_iff hv,
    toFloat_eq_iff hw, toFloat_eq_iff hw, isZero_iff, isZero_iff]
  -- Of the four pairs of zeros, the two of one sign are pairs of the same word.
  constructor
  · rintro (h | ⟨h, h'⟩ | ⟨h, h'⟩)
    · exact .inl h
    · exact .inr ⟨.inl h, .inr h'⟩
    · exact .inr ⟨.inr h, .inl h'⟩
  · rintro (h | ⟨rfl | rfl, rfl | rfl⟩)
    · exact .inl h
    · exact .inl rfl
    · exact .inr (.inl ⟨rfl, rfl⟩)
    · exact .inr (.inr ⟨rfl, rfl⟩)
    · exact .inl rfl

end SiteSafety.Binary64
