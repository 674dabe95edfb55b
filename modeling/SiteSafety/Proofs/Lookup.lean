import Mathlib.Data.List.Basic

namespace SiteSafety

section Names

variable {α : Type} {pairs all : List (String × α)} {name : String} {a : α}

theorem lookup_cons (p : String × α) (pairs : List (String × α)) (name : String) :
    (p :: pairs).lookup name = if name = p.1 then some p.2 else pairs.lookup name := by
  rw [List.lookup_cons]
  by_cases h : name = p.1
  · rw [if_pos h, beq_iff_eq.mpr h]
  · rw [if_neg h, beq_eq_false_iff_ne.mpr h]

theorem lookup_eq_none (h : name ∉ pairs.map (·.1)) : pairs.lookup name = none := by
  refine List.lookup_eq_none_iff.mpr fun p hp => bne_iff_ne.mpr ?_
  rintro rfl
  exact h (List.mem_map_of_mem hp)

theorem mem_of_lookup (h : pairs.lookup name = some a) : (name, a) ∈ pairs := by
  obtain ⟨before, after, rfl, -⟩ := List.lookup_eq_some_iff.mp h
  exact List.mem_append_right before List.mem_cons_self

theorem lookup_of_mem (hnames : (pairs.map (·.1)).Nodup) {p : String × α} (hp : p ∈ pairs) :
    pairs.lookup p.1 = some p.2 := by
  induction pairs with
  | nil => cases hp
  | cons q pairs ih =>
      simp only [List.map_cons, List.nodup_cons] at hnames
      obtain ⟨hq, hpairs⟩ := hnames
      rw [lookup_cons]
      rcases List.mem_cons.mp hp with rfl | hp
      · exact if_pos rfl
      · have hmem : p.1 ∈ pairs.map (·.1) := List.mem_map_of_mem hp
        have hne : p.1 ≠ q.1 := fun heq => hq (heq ▸ hmem)
        rw [if_neg hne, ih hpairs hp]

theorem lookup_of_subset (h : ∀ p ∈ pairs, all.lookup p.1 = some p.2) :
    pairs.lookup name = if name ∈ pairs.map (·.1) then all.lookup name else none := by
  induction pairs with
  | nil => rfl
  | cons p pairs ih =>
      obtain ⟨hp, hpairs⟩ := List.forall_mem_cons.mp h
      rw [lookup_cons, ih hpairs]
      simp only [List.map_cons, List.mem_cons]
      by_cases hname : name = p.1
      · rw [if_pos hname, if_pos (.inl hname), hname, hp]
      · simp only [hname, if_false, false_or]

end Names

/-- The element at this place, which meets the condition as the first one of the list. -/
structure FirstAt {α : Type} (p : α → Prop) (l : List α) (i : ℕ) (a : α) : Prop where
  place : l[i]? = some a
  holds : p a
  before : ∀ j < i, ∀ b, l[j]? = some b → ¬ p b

section FirstAt

variable {α : Type} {p : α → Prop} {l : List α} {i : ℕ} {a b : α}

theorem not_firstAt_nil : ¬ FirstAt p [] i a := by
  intro h
  cases h.place

theorem firstAt_cons_of_pos (h : p a) : FirstAt p (a :: l) i b ↔ i = 0 ∧ b = a := by
  constructor
  · intro hfirst
    cases i with
    | zero => exact ⟨rfl, (Option.some.inj hfirst.place).symm⟩
    | succ i => exact absurd h (hfirst.before 0 (Nat.succ_pos i) a rfl)
  · rintro ⟨rfl, rfl⟩
    exact ⟨rfl, h, nofun⟩

theorem firstAt_cons_of_neg (h : ¬ p a) :
    FirstAt p (a :: l) i b ↔ ∃ j, i = j + 1 ∧ FirstAt p l j b := by
  constructor
  · intro hfirst
    cases i with
    | zero => exact absurd (Option.some.inj hfirst.place ▸ hfirst.holds) h
    | succ j =>
        refine ⟨j, rfl, hfirst.place, hfirst.holds, fun k hk => ?_⟩
        exact hfirst.before (k + 1) (Nat.succ_lt_succ hk)
  · rintro ⟨j, rfl, hfirst⟩
    refine ⟨hfirst.place, hfirst.holds, fun k hk c hc => ?_⟩
    cases k with
    | zero => exact Option.some.inj hc ▸ h
    | succ k => exact hfirst.before k (Nat.lt_of_succ_lt_succ hk) c hc

theorem exists_firstAt : (∃ i a, FirstAt p l i a) ↔ ∃ a ∈ l, p a := by
  constructor
  · rintro ⟨i, a, h⟩
    exact ⟨a, List.mem_of_getElem? h.place, h.holds⟩
  · induction l with
    | nil => simp
    | cons a l ih =>
        intro h
        by_cases ha : p a
        · exact ⟨0, a, (firstAt_cons_of_pos ha).mpr ⟨rfl, rfl⟩⟩
        · obtain ⟨i, b, hb⟩ := ih (by simpa [ha] using h)
          exact ⟨i + 1, b, (firstAt_cons_of_neg ha).mpr ⟨i, rfl, hb⟩⟩

theorem find?_eq_some_iff {q : α → Bool} (hq : ∀ a, q a = true ↔ p a) :
    l.find? q = some b ↔ ∃ i, FirstAt p l i b := by
  induction l with
  | nil => simp [not_firstAt_nil]
  | cons a l ih =>
      by_cases ha : p a
      · simp only [List.find?_cons_of_pos ((hq a).mpr ha), firstAt_cons_of_pos ha, exists_eq_left,
          Option.some.injEq, eq_comm]
      · rw [List.find?_cons_of_neg (mt (hq a).mp ha), ih]
        simp only [firstAt_cons_of_neg ha]
        exact ⟨fun ⟨i, hi⟩ => ⟨i + 1, i, rfl, hi⟩, fun ⟨_, i, _, hi⟩ => ⟨i, hi⟩⟩

end FirstAt

end SiteSafety
