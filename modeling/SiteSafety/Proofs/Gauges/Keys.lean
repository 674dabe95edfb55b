import Mathlib.Data.List.Basic
import Mathlib.Data.Nat.Bitwise
import SiteSafety.Gauges

namespace SiteSafety

namespace Series

def lowByte (k x : ℕ) (b : UInt8) : ℕ := (x ^^^ b.toNat) * 0x100000001b3 % 2 ^ k

theorem hashByte_mod {k : ℕ} (hk : k ≤ 64) (h : UInt64) (b : UInt8) :
    (hashByte h b).toNat % 2 ^ k = lowByte k (h.toNat % 2 ^ k) b := by
  have hxor : (h.toNat ^^^ b.toNat) % 2 ^ k = (h.toNat % 2 ^ k ^^^ b.toNat) % 2 ^ k := by
    rw [Nat.xor_mod_two_pow, Nat.xor_mod_two_pow, Nat.mod_mod]
  rw [hashByte, lowByte, UInt64.toNat_mul, UInt64.toNat_xor, UInt8.toNat_toUInt64,
    Nat.mod_mod_of_dvd _ (Nat.pow_dvd_pow 2 hk), Nat.mul_mod, hxor, ← Nat.mul_mod]
  rfl

theorem foldl_hashByte_mod {k : ℕ} (hk : k ≤ 64) (bytes : List UInt8) (h : UInt64) :
    (bytes.foldl hashByte h).toNat % 2 ^ k = bytes.foldl (lowByte k) (h.toNat % 2 ^ k) := by
  induction bytes generalizing h with
  | nil => rfl
  | cons b bytes ih => rw [List.foldl_cons, List.foldl_cons, ih, hashByte_mod hk]

/-- The last `k` bits of hashes that both texts take to the same last `k` bits. -/
def meetingBits (xs ys : List UInt8) : ℕ → List ℕ
  | 0 => [0]
  | k + 1 =>
    ((meetingBits xs ys k).flatMap fun x => [x, x + 2 ^ k]).filter fun x =>
      xs.foldl (lowByte (k + 1)) x = ys.foldl (lowByte (k + 1)) x

theorem mod_mem_meetingBits {xs ys : List UInt8} {h : UInt64}
    (hmeet : xs.foldl hashByte h = ys.foldl hashByte h) {k : ℕ} (hk : k ≤ 64) :
    h.toNat % 2 ^ k ∈ meetingBits xs ys k := by
  induction k with
  | zero => rw [Nat.pow_zero, Nat.mod_one, meetingBits, List.mem_singleton]
  | succ k ih =>
      rw [meetingBits, List.mem_filter, List.mem_flatMap, decide_eq_true_iff]
      refine ⟨⟨h.toNat % 2 ^ k, ih (Nat.le_of_succ_le hk), ?_⟩, ?_⟩
      · obtain hbit | hbit := Nat.mod_two_eq_zero_or_one (h.toNat / 2 ^ k)
        · simp [Nat.mod_pow_succ, hbit]
        · simp [Nat.mod_pow_succ, hbit]
      · rw [← foldl_hashByte_mod hk, ← foldl_hashByte_mod hk, hmeet]

theorem key_pair (first second : String) :
    key [first, second] = (Text.encode second).foldl hashByte (key [first]) := by
  simp only [key, List.flatMap_cons, List.flatMap_nil, List.append_nil, List.foldl_append]

end Series

namespace Gauges

def GateKeysDiffer (siteId : String) : Prop :=
  Series.key [siteId, conservationGate] ≠ Series.key [siteId, stabilityGate]

instance (siteId : String) : Decidable (GateKeysDiffer siteId) :=
  inferInstanceAs (Decidable (_ ≠ _))

/-- Hashes of site ids that the names of both gates take to one key. -/
def sharedHashes : List UInt64 :=
  [ 0x0817f937fd917421, 0x8817f937fd917421, 0x5e9b3b3e2bbe7b61, 0xde9b3b3e2bbe7b61,
    0x5e77da0d3998c699, 0xde77da0d3998c699, 0x1c4c52a03b5d94d9, 0x9c4c52a03b5d94d9 ]

theorem meetingBits_gates : ∀ x ∈ Series.meetingBits (Text.encode conservationGate)
    (Text.encode stabilityGate) 64, x ∈ sharedHashes.map UInt64.toNat := by
  decide +kernel

/-- Of all hashes that a site id can have, eight make its gates share a series. -/
theorem gateKeysDiffer_iff (siteId : String) :
    GateKeysDiffer siteId ↔ Series.key [siteId] ∉ sharedHashes := by
  rw [GateKeysDiffer, Series.key_pair, Series.key_pair, ne_eq, not_iff_not]
  constructor
  · intro h
    have hmem := meetingBits_gates _ (Series.mod_mem_meetingBits h (Nat.le_refl 64))
    rw [Nat.mod_eq_of_lt (UInt64.toNat_lt _)] at hmem
    exact (List.mem_map_of_injective fun _ _ => UInt64.toNat_inj.mp).mp hmem
  · have hshared : sharedHashes.map ((Text.encode conservationGate).foldl Series.hashByte) =
        sharedHashes.map ((Text.encode stabilityGate).foldl Series.hashByte) := by
      decide +kernel
    exact List.map_inj_left.mp hshared _

end Gauges

end SiteSafety
