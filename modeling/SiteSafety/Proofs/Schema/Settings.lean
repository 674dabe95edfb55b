import SiteSafety.Schema.Settings
import SiteSafety.Proofs.HazardTable
import SiteSafety.Proofs.Json.Form

namespace SiteSafety

open Json (Schema Spells)

namespace Json

/-- The value reads back: the form fits what is written for it, which stands for the value. -/
structure Schema.Fits {α : Type} (s : Schema α) (x : α) : Prop where
  reads : s.form.Reads (s.toJson x) (s.toJson x)
  ofJson : s.ofJson? (s.toJson x) = some x

open Schema Form

theorem fits_float {x : Float} (h : (Json.number x).Readable) : float.Fits x :=
  ⟨reads_number h, rfl⟩

theorem fits_previous {p : Option Float} (hfinite : ∀ x, p = some x → x.isFinite = true)
    (h : (float.option.toJson p).Readable) : float.option.Fits p := by
  cases p with
  | none => exact ⟨optional_reads_null _, rfl⟩
  | some x => exact ⟨optional_reads_number (hfinite x rfl) h, rfl⟩

end Json

open Json Form

theorem Tolerances.fits {t : Tolerances} (h : (schema.toJson t).Readable) : schema.Fits t := by
  have hnames : ["mass", "energy"].Nodup := by decide
  exact ⟨floats_read [("mass", t.mass), ("energy", t.energy)] hnames h, rfl⟩

theorem SiteReadings.fits {r : SiteReadings} (h : (schema.toJson r).Readable) : schema.Fits r := by
  have hnames : ["v_ms", "e_avail_kwh", "bio_stress_index"].Nodup := by decide
  exact ⟨floats_read [("v_ms", r.velocity), ("e_avail_kwh", r.availableEnergy),
    ("bio_stress_index", r.bioStress)] hnames h, rfl⟩

theorem Residual.fits {r : Residual Float} (h : ((schema Schema.float).toJson r).Readable) :
    (schema Schema.float).Fits r := by
  have hnames : ["delta_mass", "delta_energy"].Nodup := by decide
  exact ⟨floats_read [("delta_mass", r.mass), ("delta_energy", r.energy)] hnames h, rfl⟩

theorem Panel.fits {p : Panel Float} (h : ((schema Schema.float).toJson p).Readable) :
    (schema Schema.float).Fits p := by
  have hnames : ["pfbs_ng_l", "ecoli_mpn_100ml", "tp_mg_l", "tds_mg_l"].Nodup := by decide
  exact ⟨floats_read [("pfbs_ng_l", p.pfbs), ("ecoli_mpn_100ml", p.eColi), ("tp_mg_l", p.tp),
    ("tds_mg_l", p.tds)] hnames h, rfl⟩

theorem Interior.fits (f : Interior) : schema.Fits f := by
  have hnames : ["previous", "next"].Nodup := by decide
  refine ⟨fields_reads hnames ?_ (arrange_self hnames rfl), rfl⟩
  simp only [List.forall_mem_cons]
  exact ⟨⟨_, rfl, reads_flag _⟩, ⟨_, rfl, reads_flag _⟩, List.forall_mem_nil _⟩

theorem Context.fits (c : Context) : schema.Fits c := by
  refine ⟨names_reads ?_, ?_⟩
  · cases c <;> decide
  · cases c <;> rfl

namespace HazardTable

theorem mapM_entries (entries : List (String × Float)) :
    (entries.map fun e => (e.1, Json.number e.2)).mapM entry? = some entries := by
  induction entries with
  | nil => rfl
  | cons e entries ih =>
      rw [List.map_cons, List.mapM_cons, ih]
      rfl

theorem ofJson?_toJson (t : HazardTable) : schema.ofJson? (schema.toJson t) = some t := by
  change ((t.entries.map fun e => (e.1, Json.number e.2)).mapM entry?).map ofList = some t
  rw [mapM_entries]
  exact congrArg some (ofList_entries t)

theorem fits {t : HazardTable} (h : (schema.toJson t).Readable) : schema.Fits t := by
  refine ⟨table_reads ?_, ofJson?_toJson t⟩
  simp only [schema, readable_object, List.forall_mem_map] at h
  exact List.forall_mem_map.mpr fun e he => reads_number (h e he)

end HazardTable

namespace Settings

/-- The standard settings with those that are named replaced by the ones of `c`. -/
def overriding (c : Settings) (names : List String) : Settings where
  windowSeconds := if "window_seconds" ∈ names then c.windowSeconds else standard.windowSeconds
  hazardWeights := if "hazard_weights" ∈ names then c.hazardWeights else standard.hazardWeights
  tolerances := if "tolerances" ∈ names then c.tolerances else standard.tolerances
  context := if "context" ∈ names then c.context else standard.context
  thresholds := if "thresholds" ∈ names then c.thresholds else standard.thresholds
  site := if "site" ∈ names then c.site else standard.site
  residual := if "residual" ∈ names then c.residual else standard.residual
  previousPotential :=
    if "previous_potential" ∈ names then c.previousPotential else standard.previousPotential
  interior := if "interior" ∈ names then c.interior else standard.interior

def members : List Member :=
  [ Schema.float.defaulted "window_seconds", HazardTable.schema.defaulted "hazard_weights",
    Tolerances.schema.defaulted "tolerances", Context.schema.defaulted "context",
    (Panel.schema Schema.float).defaulted "thresholds", SiteReadings.schema.defaulted "site",
    (Residual.schema Schema.float).defaulted "residual",
    Schema.float.option.defaulted "previous_potential", Interior.schema.defaulted "interior" ]

def names : List String :=
  [ "window_seconds", "hazard_weights", "tolerances", "context", "thresholds", "site", "residual",
    "previous_potential", "interior" ]

variable {c : Settings} {fields : List (String × Json)} {name : String}

theorem nodup_names : names.Nodup := by decide

theorem nodup_toFields (c : Settings) : (c.toFields.map (·.1)).Nodup := nodup_names

theorem map_members : members.map (·.name) = names := rfl

theorem member_reads (hvalid : c.Valid) : ∀ f ∈ c.toFields, f.2.Readable →
    ∃ m, members.find? (·.name == f.1) = some m ∧ m.form.Reads f.2 f.2 := by
  simp only [toFields, List.forall_mem_cons]
  exact ⟨fun h => ⟨_, rfl, (fits_float h).reads⟩, fun h => ⟨_, rfl, (HazardTable.fits h).reads⟩,
    fun h => ⟨_, rfl, (Tolerances.fits h).reads⟩, fun _ => ⟨_, rfl, (Context.fits _).reads⟩,
    fun h => ⟨_, rfl, (Panel.fits h).reads⟩, fun h => ⟨_, rfl, (SiteReadings.fits h).reads⟩,
    fun h => ⟨_, rfl, (Residual.fits h).reads⟩,
    fun h => ⟨_, rfl, (fits_previous hvalid.previous h).reads⟩,
    fun _ => ⟨_, rfl, (Interior.fits _).reads⟩, List.forall_mem_nil _⟩

def arranged (fields : List (String × Json)) : List (String × Json) :=
  members.filterMap fun m => (fields.lookup m.name).map (m.name, ·)

theorem form_reads (hvalid : c.Valid) (hfields : fields.Subperm c.toFields)
    (hreadable : (Json.object fields).Readable) :
    schema.form.Reads (.object fields) (.object (arranged fields)) := by
  have hnames : (fields.map (·.1)).Nodup := by
    obtain ⟨l, hperm, hsub⟩ := hfields
    exact (hperm.map _).nodup_iff.mp ((hsub.map _).nodup c.nodup_toFields)
  refine fields_reads hnames (fun f hf => ?_) rfl
  exact member_reads hvalid f (hfields.subset hf) (readable_object.mp hreadable f hf)

theorem lookup_filterMap (ms : List Member) :
    (ms.filterMap fun m => (fields.lookup m.name).map (m.name, ·)).lookup name =
      if name ∈ ms.map (·.name) then fields.lookup name else none := by
  induction ms with
  | nil => rfl
  | cons m ms ih =>
      simp only [List.map_cons, List.mem_cons]
      cases hm : fields.lookup m.name with
      | none =>
          rw [List.filterMap_cons_none (by rw [hm]; rfl), ih]
          by_cases hname : name = m.name
          · subst hname
            simp only [hm, ite_self]
          · simp only [hname, false_or]
      | some j =>
          rw [List.filterMap_cons_some (by rw [hm]; rfl), lookup_cons, ih]
          by_cases hname : name = m.name
          · rw [if_pos hname, if_pos (.inl hname), hname, hm]
          · simp only [hname, if_false, false_or]

theorem lookup_arranged (hfields : fields.Subperm c.toFields) (hname : name ∈ names) :
    (arranged fields).lookup name =
      if name ∈ fields.map (·.1) then c.toFields.lookup name else none := by
  rw [arranged, lookup_filterMap, map_members, if_pos hname]
  exact lookup_of_subset fun f hf => lookup_of_mem c.nodup_toFields (hfields.subset hf)

theorem getD?_arranged {α : Type} (s : Schema α) (name : String) (x standard : α)
    (hfields : fields.Subperm c.toFields) (hname : name ∈ names)
    (hx : c.toFields.lookup name = some (s.toJson x)) (hread : s.ofJson? (s.toJson x) = some x) :
    s.getD? (.object (arranged fields)) name standard =
      some (if name ∈ fields.map (·.1) then x else standard) := by
  by_cases hmem : name ∈ fields.map (·.1)
  · rw [Schema.getD?, field?, lookup_arranged hfields hname, if_pos hmem, hx, if_pos hmem]
    exact hread
  · rw [Schema.getD?, field?, lookup_arranged hfields hname, if_neg hmem, if_neg hmem]

theorem ofJson?_arranged (hfields : fields.Subperm c.toFields) :
    schema.ofJson? (.object (arranged fields)) = some (c.overriding (fields.map (·.1))) := by
  have hprevious : Schema.float.option.ofJson? (Schema.float.option.toJson c.previousPotential) =
      some c.previousPotential := by
    cases c.previousPotential <;> rfl
  have hwindow := getD?_arranged Schema.float "window_seconds" c.windowSeconds
    standard.windowSeconds hfields (by decide) rfl rfl
  have hweights := getD?_arranged HazardTable.schema "hazard_weights" c.hazardWeights
    standard.hazardWeights hfields (by decide) rfl (HazardTable.ofJson?_toJson _)
  have htolerances := getD?_arranged Tolerances.schema "tolerances" c.tolerances
    standard.tolerances hfields (by decide) rfl rfl
  have hcontext := getD?_arranged Context.schema "context" c.context standard.context hfields
    (by decide) rfl (Context.fits _).ofJson
  have hthresholds := getD?_arranged (Panel.schema Schema.float) "thresholds" c.thresholds
    standard.thresholds hfields (by decide) rfl rfl
  have hsite := getD?_arranged SiteReadings.schema "site" c.site standard.site hfields (by decide) rfl
    rfl
  have hresidual := getD?_arranged (Residual.schema Schema.float) "residual" c.residual
    standard.residual hfields (by decide) rfl rfl
  have hpotential := getD?_arranged Schema.float.option "previous_potential" c.previousPotential
    standard.previousPotential hfields (by decide) rfl hprevious
  have hinterior := getD?_arranged Interior.schema "interior" c.interior standard.interior hfields
    (by decide) rfl rfl
  simp only [schema, hwindow, hweights, htolerances, hcontext, hthresholds, hsite, hresidual,
    hpotential, hinterior]
  rfl

theorem overriding_of_perm (h : fields.Perm c.toFields) : c.overriding (fields.map (·.1)) = c := by
  have hnames : ∀ name ∈ names, name ∈ fields.map (·.1) :=
    fun name hname => (h.map (·.1)).mem_iff.mpr hname
  simp only [names, List.forall_mem_cons] at hnames
  obtain ⟨h₀, h₁, h₂, h₃, h₄, h₅, h₆, h₇, h₈, -⟩ := hnames
  rw [overriding, if_pos h₀, if_pos h₁, if_pos h₂, if_pos h₃, if_pos h₄, if_pos h₅, if_pos h₆,
    if_pos h₇, if_pos h₈]

/-- A document with some of the settings of a valid configuration, in any order and with any blanks, whose
finite floats read back. If all its floats are finite, these settings are read whole and the others are
standard, so that a document with all of them is read as the configuration itself. If some float is not
finite, the document is refused. -/
theorem read_partial (hvalid : c.validate = .ok ()) (hfields : fields.Subperm c.toFields)
    (hreadable : (Json.object fields).Readable) {document : String}
    (hdocument : Spells document (.object fields)) :
    ((Json.object fields).AllFinite →
      Settings.read document = .ok (c.overriding (fields.map (·.1))) ∧
      (fields.Perm c.toFields → Settings.read document = .ok c)) ∧
    (¬ (Json.object fields).AllFinite → Settings.read document = .error .mismatch) := by
  have hread := read_eq (form_reads (valid_of_validate hvalid) hfields hreadable) hdocument
  rw [Settings.read, Schema.read, hread]
  constructor
  · intro hfinite
    rw [if_pos hfinite, ok_bind, ofJson?_arranged hfields]
    exact ⟨rfl, fun hperm => congrArg Except.ok (overriding_of_perm hperm)⟩
  · intro hfinite
    rw [if_neg hfinite]
    rfl

def unending : Settings :=
  { standard with
    windowSeconds := Decimal.infinity
    hazardWeights := HazardTable.empty.put "\"TP\"\n\u0001" 0.25
    previousPotential := some 1.5 }

def twoSettings : List (String × Json) :=
  [ ("previous_potential", .number 1.5),
    ("hazard_weights", HazardTable.schema.toJson unending.hazardWeights) ]

theorem read_partial_unending :
    Settings.read (Json.object twoSettings).indented =
      .ok { standard with
        hazardWeights := unending.hazardWeights
        previousPotential := some 1.5 } ∧
    Settings.read (schema.write unending) = .error .mismatch := by
  have hvalid : unending.validate = .ok () := by decide +kernel
  have htwo : twoSettings.Subperm unending.toFields := by
    have hnodup : (twoSettings.map (·.1)).Nodup := by decide
    exact (List.Nodup.of_map _ hnodup).subperm <|
      List.cons_subset.mpr ⟨List.mem_of_getElem? (i := 7) rfl,
        List.cons_subset.mpr ⟨List.mem_of_getElem? (i := 1) rfl, List.nil_subset _⟩⟩
  have hreadable : (Json.object unending.toFields).Readable := by decide +kernel
  have hreadableTwo : (Json.object twoSettings).Readable := by decide +kernel
  have hfinite : (Json.object twoSettings).AllFinite := by decide +kernel
  have hinfinite : ¬ (Json.object unending.toFields).AllFinite := by decide +kernel
  exact ⟨((read_partial hvalid htwo hreadableTwo (spells_indented _)).1 hfinite).1,
    (read_partial hvalid (List.Subperm.refl _) hreadable (spells_compact _)).2 hinfinite⟩

end Settings

end SiteSafety
