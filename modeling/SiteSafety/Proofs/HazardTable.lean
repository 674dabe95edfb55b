import SiteSafety.Proofs.Validation

namespace SiteSafety

theorem Hazard.lookup_insertEntry (name other : String) (weight : Float)
    (es : List (String × Float)) :
    (insertEntry name weight es).lookup other =
      if other = name then some weight else es.lookup other := by
  induction es with
  | nil => exact lookup_cons _ _ _
  | cons e es ih =>
      rw [insertEntry]
      split
      · next heq =>
        rw [lookup_cons, lookup_cons, ← heq]
        split <;> rfl
      · next hne =>
        split
        · exact lookup_cons _ _ _
        · rw [lookup_cons, lookup_cons, ih]
          split
          · next h => rw [if_neg (fun hname => hne (hname.symm.trans h))]
          · rfl

namespace Contaminant

theorem ofName?_name (c : Contaminant) : ofName? c.name = some c := by
  cases c <;> rfl

theorem name_of_ofName? {name : String} {c : Contaminant} (h : ofName? name = some c) :
    c.name = name :=
  eq_of_beq (List.find?_some (p := fun c : Contaminant => c.name == name) h)

theorem name_ne_of_ofName? {name : String} (h : ofName? name = none) (c : Contaminant) :
    name ≠ c.name :=
  fun heq => List.find?_eq_none.mp h c c.mem_all (beq_iff_eq.mpr heq.symm)

end Contaminant

namespace HazardTable

theorem find?_put (t : HazardTable) (name other : String) (weight : Float) :
    (t.put name weight).find? other = if other = name then some weight else t.find? other :=
  Hazard.lookup_insertEntry name other weight t.entries

theorem nodup_names (t : HazardTable) : (t.entries.map (·.1)).Nodup := by
  rw [List.Nodup, List.pairwise_map]
  exact t.sorted.imp fun h => String.ne_of_lt h

theorem find?_of_mem {t : HazardTable} {e : String × Float} (h : e ∈ t.entries) :
    t.find? e.1 = some e.2 :=
  lookup_of_mem t.nodup_names h

theorem find?_empty (name : String) : empty.find? name = none := rfl

theorem find?_ofPanel (p : Panel Float) (name : String) :
    (ofPanel p).find? name = (Contaminant.ofName? name).map p.get := by
  have hput : ofPanel p =
      (((empty.put Contaminant.pfbs.name p.pfbs).put Contaminant.eColi.name p.eColi).put
        Contaminant.tp.name p.tp).put Contaminant.tds.name p.tds := rfl
  rw [hput, find?_put, find?_put, find?_put, find?_put, find?_empty]
  cases h : Contaminant.ofName? name with
  | none =>
      have hne := Contaminant.name_ne_of_ofName? h
      rw [if_neg (hne .tds), if_neg (hne .tp), if_neg (hne .eColi), if_neg (hne .pfbs)]
      rfl
  | some c =>
      rw [← Contaminant.name_of_ofName? h]
      cases c <;> rfl

theorem insertEntry_of_lt {name : String} {w : Float} {es : List (String × Float)}
    (h : ∀ e ∈ es, e.1 < name) : Hazard.insertEntry name w es = es ++ [(name, w)] := by
  induction es with
  | nil => rfl
  | cons e es ih =>
      obtain ⟨he, hes⟩ := List.forall_mem_cons.mp h
      have hne : name ≠ e.1 := fun heq => String.lt_irrefl _ (heq ▸ he)
      rw [Hazard.insertEntry, if_neg hne, if_neg (String.lt_asymm he), ih hes, List.cons_append]

theorem entries_ofList {es : List (String × Float)} (h : Hazard.Sorted es) :
    (ofList es).entries = es := by
  induction es using List.reverseRecOn with
  | nil => rfl
  | append_singleton es e ih =>
      obtain ⟨hes, -, hlt⟩ := List.pairwise_append.mp h
      have hput : ofList (es ++ [e]) = (ofList es).put e.1 e.2 := List.foldl_concat _ _ _ _
      rw [hput]
      change Hazard.insertEntry e.1 e.2 (ofList es).entries = _
      rw [ih hes]
      exact insertEntry_of_lt fun a ha => hlt a ha e List.mem_cons_self

theorem eq_of_entries_eq {t u : HazardTable} (h : t.entries = u.entries) : t = u := by
  cases t
  cases u
  cases h
  rfl

theorem ofList_entries (t : HazardTable) : ofList t.entries = t :=
  eq_of_entries_eq (entries_ofList t.sorted)

end HazardTable

end SiteSafety
