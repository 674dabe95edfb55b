import Mathlib.Tactic.Ring
import SiteSafety.Record.Wire

namespace SiteSafety.Binary64

theorem length_toBytes (w : Binary64) : w.toBytes.length = 8 := rfl

theorem length_flatMap_toBytes (words : List Binary64) :
    (words.flatMap toBytes).length = 8 * words.length := by
  induction words with
  | nil => rfl
  | cons w words ih => rw [List.flatMap_cons, List.length_append, length_toBytes, ih,
      List.length_cons, Nat.mul_add, Nat.add_comm]

/-- The number that a row of bytes writes, most significant byte first. -/
def bigEndian (bytes : List UInt8) : Nat := bytes.foldl (fun n b => n * 256 + b.toNat) 0

theorem or_shifted_byte (x : UInt64) (b : UInt8) (k : Nat) (hk : k ≤ 56) (n : Nat)
    (hx : x.toNat = n * 2 ^ (k + 8)) :
    (x ||| (b.toUInt64 <<< k.toUInt64)).toNat = (n * 256 + b.toNat) * 2 ^ k := by
  have hb : b.toNat < 256 := b.toNat_lt
  have hk' : k.toUInt64.toNat % 64 = k := by
    rw [UInt64.toNat_ofNat']
    omega
  have hsmall : b.toNat * 2 ^ k < 2 ^ (k + 8) := by
    rw [Nat.pow_add, Nat.mul_comm (2 ^ k)]
    exact Nat.mul_lt_mul_of_pos_right hb (Nat.two_pow_pos k)
  have hword : b.toNat * 2 ^ k < 2 ^ 64 :=
    Nat.lt_of_lt_of_le hsmall (Nat.pow_le_pow_right (by omega) (by omega))
  rw [UInt64.toNat_or, UInt64.toNat_shiftLeft, hk', UInt8.toNat_toUInt64, Nat.shiftLeft_eq,
    Nat.mod_eq_of_lt hword, hx, Nat.mul_comm n, ← Nat.two_pow_add_eq_or_of_lt hsmall]
  rw [Nat.pow_add]
  ring

theorem toNat_ofBytes (b₀ b₁ b₂ b₃ b₄ b₅ b₆ b₇ : UInt8) :
    (ofBytes b₀ b₁ b₂ b₃ b₄ b₅ b₆ b₇).bits.toNat =
      bigEndian [b₀, b₁, b₂, b₃, b₄, b₅, b₆, b₇] := by
  have h₀ := or_shifted_byte 0 b₀ 56 (by omega) 0 rfl
  rw [UInt64.zero_or] at h₀
  have h₁ := or_shifted_byte _ b₁ 48 (by omega) _ h₀
  have h₂ := or_shifted_byte _ b₂ 40 (by omega) _ h₁
  have h₃ := or_shifted_byte _ b₃ 32 (by omega) _ h₂
  have h₄ := or_shifted_byte _ b₄ 24 (by omega) _ h₃
  have h₅ := or_shifted_byte _ b₅ 16 (by omega) _ h₄
  have h₆ := or_shifted_byte _ b₆ 8 (by omega) _ h₅
  have h₇ := or_shifted_byte _ b₇ 0 (by omega) _ h₆
  rw [Nat.pow_zero, Nat.mul_one] at h₇
  have hz : b₇.toUInt64 <<< Nat.toUInt64 0 = b₇.toUInt64 := by
    apply UInt64.toNat_inj.mp
    simp
  rw [hz] at h₇
  exact h₇

theorem ofBytes_toBytes (w : Binary64) :
    ofBytes (w.bits >>> 56).toUInt8 (w.bits >>> 48).toUInt8 (w.bits >>> 40).toUInt8
      (w.bits >>> 32).toUInt8 (w.bits >>> 24).toUInt8 (w.bits >>> 16).toUInt8
      (w.bits >>> 8).toUInt8 w.bits.toUInt8 = w := by
  cases w with
  | mk bits =>
      have hlt : bits.toNat < 2 ^ 64 := bits.toNat_lt
      apply congrArg Binary64.mk
      apply UInt64.toNat_inj.mp
      refine (toNat_ofBytes _ _ _ _ _ _ _ _).trans ?_
      simp only [bigEndian, List.foldl, UInt64.toNat_toUInt8, UInt64.toNat_shiftRight,
        Nat.shiftRight_eq_div_pow, UInt64.reduceToNat, Nat.reduceMod]
      omega

theorem toBytes_ofBytes (b₀ b₁ b₂ b₃ b₄ b₅ b₆ b₇ : UInt8) :
    (ofBytes b₀ b₁ b₂ b₃ b₄ b₅ b₆ b₇).toBytes = [b₀, b₁, b₂, b₃, b₄, b₅, b₆, b₇] := by
  have hn := toNat_ofBytes b₀ b₁ b₂ b₃ b₄ b₅ b₆ b₇
  simp only [bigEndian, List.foldl] at hn
  have h₀ := b₀.toNat_lt
  have h₁ := b₁.toNat_lt
  have h₂ := b₂.toNat_lt
  have h₃ := b₃.toNat_lt
  have h₄ := b₄.toNat_lt
  have h₅ := b₅.toNat_lt
  have h₆ := b₆.toNat_lt
  have h₇ := b₇.toNat_lt
  simp only [toBytes, List.cons.injEq, and_true, ← UInt8.toNat_inj, UInt64.toNat_toUInt8,
    UInt64.toNat_shiftRight, Nat.shiftRight_eq_div_pow, UInt64.reduceToNat, Nat.reduceMod, hn]
  omega

end SiteSafety.Binary64
