import SiteSafety.Proofs.Float.Zero

namespace SiteSafety

open Float.Model.UnpackedFloat Rounding Unpacked

namespace Rounding

theorem abs_lt_limit {n : ℤ} (h : |n| ≤ 2 ^ 53) : |(n : ℝ)| < limit := by
  have hle : |(n : ℝ)| ≤ 2 ^ (53 : ℤ) := by exact_mod_cast h
  exact hle.trans_lt (zpow_lt_zpow_right₀ one_lt_two (by norm_num))

theorem onGrid_of_abs_le {n : ℤ} (h : |n| ≤ 2 ^ 53) : OnGrid n := by
  rcases h.lt_or_eq with hlt | heq
  · exact onGrid_intCast hlt
  · -- the bound itself has one bit too many, but that bit is a zero
    rcases (abs_eq (by norm_num)).mp heq with rfl | rfl
    · exact ⟨1, 53, by norm_num, by norm_num, by norm_num⟩
    · exact ⟨-1, 53, by norm_num, by norm_num, by norm_num⟩

theorem representable_intCast {n : ℤ} (h : |n| ≤ 2 ^ 53) : Representable ((n : ℝ) : EReal) :=
  .inr (.inr ⟨_, rfl, onGrid_of_abs_le h, abs_lt_limit h⟩)

end Rounding

namespace FloatValue

/-- What a float stands for, as a real; infinities and a NaN are given zero. -/
noncomputable def number (x : Float) : ℝ := (value x).toReal

def IsWhole (x : Float) : Prop := x.isNaN = false ∧ ∃ n : ℤ, value x = (n : ℝ)

/-- Terms that are added without rounding, in any order. -/
structure WholeTerms (xs : List Float) : Prop where
  whole : ∀ x ∈ xs, IsWhole x
  bounded : (xs.map fun x => |number x|).sum ≤ 2 ^ 53

/-- The exact sum of the terms, and not the negative one of the two zeros. -/
structure IsSum (xs : List Float) (s : Float) : Prop where
  isNumber : s.isNaN = false
  ne_neg_zero : s ≠ -0
  value_eq : value s = ((xs.map number).sum : ℝ)

variable {x y s t : Float} {xs ys : List Float}

theorem IsWhole.value_eq (h : IsWhole x) : value x = number x := by
  obtain ⟨n, hn⟩ := h.2
  rw [number, hn, EReal.toReal_coe]

theorem IsWhole.exists_int (h : IsWhole x) : ∃ n : ℤ, number x = n := by
  obtain ⟨n, hn⟩ := h.2
  exact ⟨n, by rw [number, hn, EReal.toReal_coe]⟩

theorem number_of_value {n : ℤ} (hnan : x.isNaN = false) (h : value x = (n : ℝ)) :
    IsWhole x ∧ number x = n :=
  ⟨⟨hnan, n, h⟩, by rw [number, h, EReal.toReal_coe]⟩

theorem number_of_unpack {s : Sign} {m : ℕ} {e n : ℤ} {hm : 0 < m}
    (h : x.toModel.unpack = .finite s m e hm) (hn : signed s (m * 2 ^ e) = n) :
    IsWhole x ∧ number x = n := by
  refine number_of_value ?_ (by rw [value, h, valueOf, hn])
  change x.toModel.unpack.isNaN = false
  rw [h]
  rfl

theorem exists_int_sum (h : ∀ x ∈ xs, IsWhole x) :
    ∃ n : ℤ, (xs.map number).sum = n ∧ |(n : ℝ)| ≤ (xs.map fun x => |number x|).sum := by
  induction xs with
  | nil => exact ⟨0, by simp⟩
  | cons x xs ih =>
      obtain ⟨hx, hxs⟩ := List.forall_mem_cons.mp h
      obtain ⟨m, hm⟩ := hx.exists_int
      obtain ⟨n, hn, hle⟩ := ih hxs
      refine ⟨m + n, ?_, ?_⟩
      · rw [List.map_cons, List.sum_cons, hm, hn, Int.cast_add]
      · rw [List.map_cons, List.sum_cons, hm, Int.cast_add]
        exact (abs_add_le _ _).trans (add_le_add_right hle _)

namespace WholeTerms

theorem of_numbers {ns : List ℤ}
    (h : List.Forall₂ (fun x (n : ℤ) => IsWhole x ∧ number x = n) xs ns)
    (hle : (ns.map fun n => |n|).sum ≤ 2 ^ 53) : WholeTerms xs := by
  have hall : (∀ x ∈ xs, IsWhole x) ∧ (xs.map fun x => |number x|).sum = ((ns.map fun n => |n|).sum : ℤ) := by
    clear hle
    induction h with
    | nil => exact ⟨nofun, by simp⟩
    | cons hx _ ih =>
        refine ⟨List.forall_mem_cons.mpr ⟨hx.1, ih.1⟩, ?_⟩
        rw [List.map_cons, List.sum_cons, hx.2, ih.2, List.map_cons, List.sum_cons, Int.cast_add,
          Int.cast_abs]
  exact ⟨hall.1, by rw [hall.2]; exact_mod_cast hle⟩

theorem exists_int (h : WholeTerms xs) : ∃ n : ℤ, (xs.map number).sum = n ∧ |n| ≤ 2 ^ 53 := by
  obtain ⟨n, hn, hle⟩ := exists_int_sum h.whole
  exact ⟨n, hn, by exact_mod_cast hle.trans h.bounded⟩

theorem of_append (h : WholeTerms (xs ++ ys)) : WholeTerms xs ∧ WholeTerms ys := by
  obtain ⟨hxs, hys⟩ := List.forall_mem_append.mp h.whole
  have hbounded := h.bounded
  rw [List.map_append, List.sum_append] at hbounded
  have hnonneg (zs : List Float) : 0 ≤ (zs.map fun x => |number x|).sum :=
    List.sum_nonneg (List.forall_mem_map.mpr fun x _ => abs_nonneg (number x))
  exact ⟨⟨hxs, (le_add_of_nonneg_right (hnonneg ys)).trans hbounded⟩,
    ⟨hys, (le_add_of_nonneg_left (hnonneg xs)).trans hbounded⟩⟩

theorem perm (h : WholeTerms xs) (hperm : xs.Perm ys) : WholeTerms ys where
  whole := fun x hx => h.whole x (hperm.mem_iff.mpr hx)
  bounded := by rw [← (hperm.map fun x => |number x|).sum_eq]; exact h.bounded

end WholeTerms

namespace IsSum

theorem nil : IsSum [] 0 := ⟨rfl, by decide, rfl⟩

theorem add (h : WholeTerms (xs ++ ys)) (hs : IsSum xs s) (ht : t.isNaN = false)
    (hvalue : value t = ((ys.map number).sum : ℝ)) : IsSum (xs ++ ys) (s + t) := by
  obtain ⟨n, hn, hle⟩ := h.exists_int
  obtain ⟨hnan, hsum⟩ := value_add_real ⟨hs.isNumber, hs.value_eq⟩ ⟨ht, hvalue⟩
  rw [List.map_append, List.sum_append] at hn
  refine ⟨hnan, add_ne_neg_zero hs.ne_neg_zero, ?_⟩
  -- the terms summed so far stay within the bound, so the sum is a float and is not rounded
  rw [hsum, List.map_append, List.sum_append, hn, (representable_intCast hle).rounded_eq]

theorem append (h : WholeTerms (xs ++ ys)) (hs : IsSum xs s) (ht : IsSum ys t) :
    IsSum (xs ++ ys) (s + t) :=
  hs.add h ht.isNumber ht.value_eq

theorem concat (h : WholeTerms (xs ++ [y])) (hs : IsSum xs s) : IsSum (xs ++ [y]) (s + y) := by
  have hy : IsWhole y := h.whole y (List.mem_append_right xs (List.mem_singleton_self y))
  refine hs.add h hy.1 ?_
  rw [hy.value_eq, List.map_singleton, List.sum_singleton]

theorem perm (h : IsSum xs s) (hperm : xs.Perm ys) : IsSum ys s :=
  ⟨h.isNumber, h.ne_neg_zero, (hperm.map number).sum_eq ▸ h.value_eq⟩

theorem unique (hs : IsSum xs s) (ht : IsSum xs t) : s = t :=
  eq_of_value_eq hs.isNumber ht.isNumber hs.ne_neg_zero ht.ne_neg_zero
    (hs.value_eq.trans ht.value_eq.symm)

theorem isFinite (h : IsSum xs s) : s.isFinite = true :=
  isFinite_iff.mpr ⟨h.isNumber, h.value_eq ▸ EReal.coe_ne_bot _, h.value_eq ▸ EReal.coe_ne_top _⟩

end IsSum

end FloatValue

end SiteSafety
