import SiteSafety.Proofs.Float.Unpacked

namespace SiteSafety.Unpacked

open Float.Model Float.Model.UnpackedFloat Rounding

/-- The exponents that 64 bits have room for. -/
def Fits : UnpackedFloat → Prop
  | .finite _ _ e _ => e ≤ 971
  | _ => True

theorem toNat_implicit (v : BitVec 52) : (1#1 ++ v).toNat = 2 ^ 52 + v.toNat := by
  rw [BitVec.toNat_append, ← Nat.shiftLeft_add_eq_or_of_lt v.isLt]
  rfl

theorem implicit_pos (v : BitVec 52) : 0 < (1#1 ++ v).toNat := by
  rw [toNat_implicit]
  omega

def assemble (s : Sign) (w : BitVec 11) (v : BitVec 52) : UnpackedFloat :=
  if w = -1#_ then
    if v = 0#_ then .infinity s else .notANumber
  else if w = 0#_ then
    if h : v = 0#_ then .zero s
    else .finite s v.toNat (-1074) (by simpa [BitVec.toNat_pos, BitVec.pos_iff_ne_zero])
  else .finite s (1#1 ++ v).toNat (w.toNat - 1075) (implicit_pos v)

theorem canonical_assemble (s : Sign) (w : BitVec 11) (v : BitVec 52) :
    Canonical (assemble s w v) ∧ Fits (assemble s w v) := by
  have hv := v.isLt
  have hw := w.isLt
  have him := toNat_implicit v
  unfold assemble
  split
  · split <;> exact ⟨trivial, trivial⟩
  · next hones =>
    have hones' : w.toNat ≠ 2 ^ 11 - 1 := fun h => hones (BitVec.eq_of_toNat_eq h)
    split
    · split
      · exact ⟨trivial, trivial⟩
      · exact ⟨⟨by omega, le_rfl, .inr rfl⟩, (by norm_num : (-1074 : ℤ) ≤ 971)⟩
    · next hzero =>
      have hzero' : w.toNat ≠ 0 := fun h => hzero (BitVec.eq_of_toNat_eq h)
      refine ⟨⟨?_, ?_, .inl ?_⟩, ?_⟩
      · omega
      · omega
      · omega
      · change (w.toNat : ℤ) - 1075 ≤ 971
        omega

theorem unpack_eq (b : BitVec 64) :
    UnpackedFloat.unpack Format.binary64 b =
      assemble (Sign.ofBitVec (@unpackSign Format.binary64 b))
        (@unpackExponent Format.binary64 b)
        (@unpackMantissa Format.binary64 b) := by
  have hbias : (Format.binary64.exponentBias : ℤ) + Format.binary64.mantissaBitsWithoutImplicit =
      1075 := rfl
  simp only [UnpackedFloat.unpack, assemble, hbias]
  split
  · rfl
  · split
    · next hw => rw [hw]; rfl
    · rfl

theorem canonical_unpack (b : BitVec 64) :
    Canonical (UnpackedFloat.unpack Format.binary64 b) ∧
      Fits (UnpackedFloat.unpack Format.binary64 b) := by
  rw [unpack_eq]
  exact canonical_assemble _ _ _

theorem unpackSign_packComponents (s : Sign) (w : BitVec 11) (v : BitVec 52) :
    Sign.ofBitVec (@unpackSign Format.binary64
      (packComponents Format.binary64 s w v)) = s := by
  have h : @unpackSign Format.binary64 (packComponents Format.binary64 s w v) = s.toBitVec := by
    apply BitVec.eq_of_getLsbD_eq
    intro i hi
    obtain rfl : i = 0 := by omega
    change (BitVec.extractLsb' 63 1 (s.toBitVec ++ w ++ v)).getLsbD 0 = s.toBitVec.getLsbD 0
    rw [BitVec.getLsbD_extractLsb', BitVec.getLsbD_append, BitVec.getLsbD_append]
    rfl
  rw [h]
  cases s <;> rfl

theorem unpack_packComponents (s : Sign) (w : BitVec 11) (v : BitVec 52) :
    UnpackedFloat.unpack Format.binary64 (packComponents Format.binary64 s w v) = assemble s w v := by
  rw [unpack_eq, unpackSign_packComponents, unpackMantissa_packComponents,
    unpackExponent_packComponents]

theorem unpack_pack_finite (s : Sign) {m : ℕ} {e : ℤ} (hm : 0 < m)
    (hc : Canonical (.finite s m e hm)) :
    (Float.Model.pack (.finite s m e hm)).unpack =
      if e ≤ 971 then .finite s m e hm else .infinity s := by
  obtain ⟨hbound, he, hnormal⟩ := hc
  have hpack : (Float.Model.pack (.finite s m e hm)).unpack = UnpackedFloat.unpack Format.binary64
      (UnpackedFloat.pack Format.binary64 (.finite s m e hm)) := rfl
  have hbiased : (e + (Format.binary64.exponentBias : ℤ) +
      (Format.binary64.mantissaBitsWithoutImplicit : ℤ)).toNat = (e + 1075).toNat := by
    rw [add_assoc]
    rfl
  rw [hpack]
  simp only [UnpackedFloat.pack, hbiased]
  change UnpackedFloat.unpack Format.binary64
    (if 2 ^ 11 ≤ (e + 1075).toNat + 1 then packedInfinity Format.binary64 s
      else if m.log2 + 1 = 53 then
        packComponents Format.binary64 s (BitVec.ofNat 11 (e + 1075).toNat) (BitVec.ofNat 52 m)
      else packComponents Format.binary64 s 0#11 (BitVec.ofNat 52 m)) = _
  by_cases hover : e ≤ 971
  · rw [if_pos hover, if_neg (by omega)]
    by_cases hbits : m.log2 + 1 = 53
    · have hw : (BitVec.ofNat 11 (e + 1075).toNat).toNat = (e + 1075).toNat := by
        rw [BitVec.toNat_ofNat, Nat.mod_eq_of_lt (by omega)]
      have hones : BitVec.ofNat 11 (e + 1075).toNat ≠ -1#_ := by
        intro h
        have hn : (BitVec.ofNat 11 (e + 1075).toNat).toNat = 2047 := by rw [h]; rfl
        omega
      have hzero : BitVec.ofNat 11 (e + 1075).toNat ≠ 0#_ := by
        intro h
        have hn : (BitVec.ofNat 11 (e + 1075).toNat).toNat = 0 := by rw [h]; rfl
        omega
      have hlow : 2 ^ 52 ≤ m := by
        rw [← Nat.le_log2 hm.ne']
        omega
      have hm' : (1#1 ++ BitVec.ofNat 52 m).toNat = m := by
        rw [toNat_implicit, BitVec.toNat_ofNat]
        omega
      rw [if_pos hbits, unpack_packComponents, assemble, if_neg hones, if_neg hzero,
        UnpackedFloat.finite.injEq]
      exact ⟨rfl, hm', by rw [hw]; omega⟩
    · have hlow : m < 2 ^ 52 := by
        have hlog := (Nat.log2_lt hm.ne').mpr hbound
        rw [← Nat.log2_lt hm.ne']
        omega
      have hv : (BitVec.ofNat 52 m).toNat = m := by
        rw [BitVec.toNat_ofNat, Nat.mod_eq_of_lt hlow]
      have hzero : BitVec.ofNat 52 m ≠ 0#_ := by
        intro h
        rw [h] at hv
        exact hm.ne hv
      rw [if_neg hbits, unpack_packComponents, assemble, if_neg (by decide), if_pos rfl,
        dif_neg hzero, UnpackedFloat.finite.injEq]
      exact ⟨rfl, hv, (hnormal.resolve_left (by omega)).symm⟩
  · rw [if_neg hover, if_pos (by omega), packedInfinity, unpack_packComponents]
    rfl

theorem unpack_pack_zero (s : Sign) : (Float.Model.pack (.zero s)).unpack = .zero s := by
  cases s <;> rfl

theorem unpack_pack_infinity (s : Sign) : (Float.Model.pack (.infinity s)).unpack = .infinity s := by
  cases s <;> rfl

theorem unpack_pack_notANumber : (Float.Model.pack .notANumber).unpack = .notANumber := rfl

theorem unpack_pack {u : UnpackedFloat} (hc : Canonical u) (hf : Fits u) :
    (Float.Model.pack u).unpack = u := by
  cases u with
  | notANumber => exact unpack_pack_notANumber
  | infinity s => exact unpack_pack_infinity s
  | zero s => exact unpack_pack_zero s
  | finite s m e hm => exact (unpack_pack_finite s hm hc).trans (if_pos hf)

theorem overflow_signed (s : Sign) (x : ℝ) (hx : limit ≤ x) :
    overflow (signed s x) = valueOf (.infinity s) := by
  have h : overflow x = ⊤ := if_pos hx
  cases s with
  | negative => rw [signed, overflow_neg, h]; rfl
  | positive => exact h

theorem abs_signed (s : Sign) (x : ℝ) : |signed s x| = |x| := by
  cases s
  · exact abs_neg x
  · rfl

theorem mantissa_lt_limit {m : ℕ} {e : ℤ} (hm : m < 2 ^ 53) (he : e ≤ 971) :
    |(m : ℝ) * 2 ^ e| < limit := by
  have hm' : (m : ℝ) < 2 ^ (53 : ℤ) := by exact_mod_cast hm
  rw [abs_of_nonneg (mul_nonneg (Nat.cast_nonneg m) (two_zpow_pos e).le)]
  calc (m : ℝ) * 2 ^ e < 2 ^ (53 : ℤ) * 2 ^ e := mul_lt_mul_of_pos_right hm' (two_zpow_pos e)
    _ = 2 ^ (53 + e) := (two_zpow_add _ _).symm
    _ ≤ limit := zpow_le_zpow_right₀ one_le_two (by omega)

/-- Packing overflows exactly where rounding does. -/
theorem repack_finite {u : UnpackedFloat} {x : ℝ} (hx : valueOf u = (nearest x : ℝ))
    (hc : Canonical u) (hu : u.isFinite = true) :
    (Float.Model.pack u).unpack.isNaN = false ∧
      valueOf (Float.Model.pack u).unpack = rounded x := by
  rw [rounded_coe]
  cases u with
  | infinity s => cases hu
  | notANumber => cases hu
  | zero s =>
      rw [unpack_pack_zero, ← EReal.coe_eq_coe_iff.mp hx, overflow_of_abs_lt]
      · exact ⟨rfl, rfl⟩
      · rw [abs_zero]
        exact limit_pos
  | finite s m e hm =>
      obtain ⟨hbound, he, hnormal⟩ := id hc
      rw [unpack_pack_finite s hm hc, ← EReal.coe_eq_coe_iff.mp hx]
      by_cases hover : e ≤ 971
      · rw [if_pos hover, overflow_of_abs_lt]
        · exact ⟨rfl, rfl⟩
        · rw [abs_signed]
          exact mantissa_lt_limit hbound hover
      · have hm' : (2 : ℝ) ^ (52 : ℤ) ≤ m := by
          exact_mod_cast hnormal.resolve_right (by omega)
        have hle : limit ≤ m * 2 ^ e := by
          calc limit ≤ 2 ^ (52 + e) := zpow_le_zpow_right₀ one_le_two (by omega)
            _ = 2 ^ (52 : ℤ) * 2 ^ e := two_zpow_add _ _
            _ ≤ m * 2 ^ e := mul_le_mul_of_nonneg_right hm' (two_zpow_pos e).le
        rw [if_neg hover, overflow_signed s _ hle]
        exact ⟨rfl, rfl⟩

theorem representable_valueOf {u : UnpackedFloat} (hc : Canonical u) (hf : Fits u) :
    Representable (valueOf u) := by
  cases u with
  | infinity s =>
      cases s with
      | negative => exact .inl rfl
      | positive => exact .inr (.inl rfl)
  | notANumber | zero s =>
      exact .inr (.inr ⟨0, rfl, ⟨0, 0, by norm_num, by norm_num, by simp⟩, by
        rw [abs_zero]; exact limit_pos⟩)
  | finite s m e hm =>
      obtain ⟨hbound, he, -⟩ := hc
      have hgrid : OnGrid (m * 2 ^ e) :=
        ⟨m, e, by rw [abs_of_nonneg (Int.natCast_nonneg m)]; exact_mod_cast hbound, he, by simp⟩
      refine .inr (.inr ⟨_, rfl, ?_, ?_⟩)
      · cases s with
        | negative => exact hgrid.neg
        | positive => exact hgrid
      · rw [abs_signed]
        exact mantissa_lt_limit hbound hf

end SiteSafety.Unpacked
